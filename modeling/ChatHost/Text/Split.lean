/-!
# Splitting

A list cut at a separator. There is always one part more than there are
separators, and parts may be empty.

## Main definitions

* `splitAt`: The parts of a list between separators.
-/

namespace ChatHost

namespace Text

/-- The parts of a list between separators. -/
def splitAt (separator : Char) : List Char → List (List Char)
  | [] => [[]]
  | c :: rest =>
    match splitAt separator rest with
    | [] => [[c]]
    | part :: parts => if c = separator then [] :: part :: parts else (c :: part) :: parts

end Text

end ChatHost
