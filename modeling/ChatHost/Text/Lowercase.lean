import ChatHost.Text.CaseTable
import ChatHost.Text.Ranges

/-!
# Small Letters

Lowers a text to small letters as Unicode's full mapping does, so that a word
of a setting is recognised however it is capitalised.

Two characters do not go one to one. The dotted capital I becomes an i and a
combining dot. Capital sigma has two small forms, and takes the final one when
it ends a word: a cased letter stands before it and none after it, looking
through case-ignorable characters on both sides.

## Main definitions

* `lowerChar`: The small form of one character, wherever it stands.
* `endsWord`: Whether a capital sigma between two texts ends a word.
* `lowercase`: A text in small letters.
-/

namespace ChatHost

namespace Text

/-- Whether a run of capitals has the character as a member. -/
def CaseRun.holds (run : CaseRun) (c : Char) : Bool :=
  run.first ≤ c.toNat && c.toNat ≤ run.last && (c.toNat - run.first) % run.stride == 0

/-- The small form of a character that stands alone. -/
def lowerChar (c : Char) : List Char :=
  if c = 'İ' then ['i', Char.ofNat 0x307]
  else
    match capitals.find? (·.holds c) with
    | some run => [Char.ofNat (c.toNat + run.shift).toNat]
    | none => [c]

/-- Whether the first character that is not case-ignorable has case. -/
def startsCased (cs : List Char) : Bool :=
  match cs.dropWhile (inRanges ignorableRanges) with
  | c :: _ => inRanges casedRanges c
  | [] => false

/-- Whether a capital sigma ends a word, given the characters before it, the
    nearest first, and those after it. -/
def endsWord (before after : List Char) : Bool :=
  startsCased before && !startsCased after

/-- The small form of a list of characters, given those to its left, the
    nearest first. -/
def lowerFrom (before : List Char) : List Char → List Char
  | [] => []
  | c :: rest =>
    let small :=
      if c = 'Σ' then [if endsWord before rest then 'ς' else 'σ'] else lowerChar c
    small ++ lowerFrom (c :: before) rest

/-- A text in small letters. -/
def lowercase (s : String) : String :=
  String.ofList (lowerFrom [] s.toList)

end Text

end ChatHost
