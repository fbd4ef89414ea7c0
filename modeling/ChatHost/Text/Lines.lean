/-!
# Lines

A text as the lines that it takes when it is printed, with a line feed behind
it. A carriage return right before a line feed belongs to the end of the line;
one that stands elsewhere is part of the line.

## Main definitions

* `lines`: The lines of a text; there is always one.
-/

namespace ChatHost

namespace Text

/-- The lines of a list of characters. -/
def linesOf : List Char → List (List Char)
  | [] => [[]]
  -- The line feed that follows is the one behind the whole text.
  | ['\r'] => [[]]
  | '\r' :: '\n' :: rest => [] :: linesOf rest
  | '\n' :: rest => [] :: linesOf rest
  | c :: rest =>
    match linesOf rest with
    | line :: others => (c :: line) :: others
    | [] => [[c]]

/-- The lines of a text. -/
def lines (s : String) : List String := (linesOf s.toList).map String.ofList

end Text

end ChatHost
