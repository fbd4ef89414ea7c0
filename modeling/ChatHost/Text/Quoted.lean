import ChatHost.Text.Printable

/-!
# Quoted Text

A text between quotation marks, so that a reader can tell what it holds.

Quotation marks and backslashes have a backslash before them. Tabs, line ends
and the NUL have short names behind one, and whatever else cannot be shown is
written as its number in hexadecimal.

## Main definitions

* `quoteChar`: One character between quotation marks.
* `quote`: A text between quotation marks.
-/

namespace ChatHost

namespace Text

/-- One character between quotation marks. -/
def quoteChar (c : Char) : List Char :=
  if c = '"' || c = '\\' then ['\\', c]
  else if c = '\t' then ['\\', 't']
  else if c = '\r' then ['\\', 'r']
  else if c = '\n' then ['\\', 'n']
  else if c.toNat = 0 then ['\\', '0']
  else if isShown c then [c]
  else ['\\', 'u', '\x7b'] ++ Nat.toDigits 16 c.toNat ++ ['\x7d']

/-- A text between quotation marks. -/
def quote (s : String) : String :=
  "\"" ++ String.ofList (s.toList.flatMap quoteChar) ++ "\""

end Text

end ChatHost
