/-!
# Ranges of Characters

A property of characters as the list of the ranges that have it, in ascending
order. The texts that are asked about are a few characters long, so a range is
found by walking the list.

## Main definitions

* `inRanges`: Whether a character has a property.
-/

namespace ChatHost

namespace Text

/-- Whether one of the ranges holds the character. -/
def inRanges (ranges : List (Nat × Nat)) (c : Char) : Bool :=
  ranges.any fun r => r.1 ≤ c.toNat && c.toNat ≤ r.2

end Text

end ChatHost
