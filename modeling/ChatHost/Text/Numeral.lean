/-!
# Numerals

Whole numbers as people write them into settings and command lines: decimal
digits, at least one, with a sign in front where one is allowed. Leading zeros
are fine, separators and blanks are not, and a number past the bound is no
number at all.

## Main definitions

* `natOfDigits?`: The value of a list of decimal digits.
* `unsigned?`: A number from zero to a bound, with an optional plus sign.
* `signed?`: A number with an optional sign, between two bounds.
-/

namespace ChatHost

namespace Text

/-- The value of one decimal digit. -/
def digit? (c : Char) : Option Nat :=
  if '0' ≤ c && c ≤ '9' then some (c.toNat - '0'.toNat) else none

/-- The value of decimal digits read after `acc`; anything else spoils it. -/
def addDigits? (acc : Nat) : List Char → Option Nat
  | [] => some acc
  | c :: rest => (digit? c).bind fun d => addDigits? (acc * 10 + d) rest

/-- The value of a list of decimal digits, which may not be empty. -/
def natOfDigits? : List Char → Option Nat
  | [] => none
  | cs => addDigits? 0 cs

/-- A number from zero to `bound`, with an optional plus sign. -/
def unsigned? (bound : Nat) (s : String) : Option Nat :=
  let digits :=
    match s.toList with
    | '+' :: rest => rest
    | cs => cs
  (natOfDigits? digits).filter (· ≤ bound)

/-- A number from `low` to `high`, with an optional sign. -/
def signed? (low high : Int) (s : String) : Option Int :=
  let value : Option Int :=
    match s.toList with
    | '+' :: rest => (natOfDigits? rest).map Int.ofNat
    | '-' :: rest => (natOfDigits? rest).map fun n => -Int.ofNat n
    | cs => (natOfDigits? cs).map Int.ofNat
  value.filter fun n => decide (low ≤ n ∧ n ≤ high)

end Text

end ChatHost
