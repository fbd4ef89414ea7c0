/-!
# Blank Text

Which characters count as blank, and texts without them at either end.

Names, settings and invitation codes come from people, who leave spaces around
what they type and sometimes type nothing else. All three places ask the same
two questions, so the character class is fixed once, as the Unicode property
White_Space: the ASCII blanks, the no-break space, and the typographic spaces.
A zero-width space and the ASCII separators below the space are not in it.

## Main definitions

* `isBlank`: The character class.
* `isAllBlank`: A text of blanks only, the empty text included.
* `trim`: A text without the blanks at its two ends.
-/

namespace ChatHost

namespace Text

/-- Characters with the Unicode property White_Space. -/
def isBlank (c : Char) : Bool :=
  let n := c.toNat
  (9 ≤ n && n ≤ 13) || n == 0x20 || n == 0x85 || n == 0xA0 || n == 0x1680 ||
    (0x2000 ≤ n && n ≤ 0x200A) || n == 0x2028 || n == 0x2029 || n == 0x202F ||
    n == 0x205F || n == 0x3000

/-- A text says nothing if all its characters are blank. -/
def isAllBlank (s : String) : Bool :=
  s.toList.all isBlank

/-- Drops the blanks at the end of a list of characters. -/
def dropBlankEnd (cs : List Char) : List Char :=
  (cs.reverse.dropWhile isBlank).reverse

/-- A text without the blanks at its two ends. -/
def trim (s : String) : String :=
  String.ofList (dropBlankEnd (s.toList.dropWhile isBlank))

end Text

end ChatHost
