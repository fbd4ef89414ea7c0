/-!
# Bytes

Byte strings, and whole numbers written into a fixed number of them.

Every format of this library is little-endian: the lowest byte of a number
comes first. Numbers are written from `Nat` and read back to `Nat`, with the
width as a parameter, so that one pair of functions serves fields of all sizes.

## Main definitions

* `Bytes`: Byte strings as lists.
* `leBytes`: A number in a given count of bytes, the lowest first.
* `leValue`: The number that a list of bytes stands for.
* `fieldRange`: How many numbers a field of some bytes tells apart.

## Theorems

* `leValue_leBytes`: A number that fits its field is read back.
* `leValue_lt`: The number of some bytes fits a field of as many.
* `leBytes_leValue`: Bytes are what their number is written as.
-/

namespace ChatHost

/-- A byte string. -/
abbrev Bytes := List UInt8

/-- The lowest `width` bytes of a number, the lowest first. -/
def leBytes : (width : Nat) → Nat → Bytes
  | 0, _ => []
  | width + 1, n => UInt8.ofNat n :: leBytes width (n / 256)

/-- The number whose bytes are given, the lowest first. -/
def leValue : Bytes → Nat
  | [] => 0
  | b :: rest => b.toNat + 256 * leValue rest

@[simp] theorem length_leBytes (width n : Nat) : (leBytes width n).length = width := by
  induction width generalizing n with
  | zero => rfl
  | succ width ih => simp [leBytes, ih]

/-- How many numbers a field of some bytes tells apart. -/
def fieldRange : (width : Nat) → Nat
  | 0 => 1
  | width + 1 => 256 * fieldRange width

/-- A number that fits its field is read back as it was written. -/
theorem leValue_leBytes (width n : Nat) (fits : n < fieldRange width) :
    leValue (leBytes width n) = n := by
  induction width generalizing n with
  | zero =>
    simp only [fieldRange] at fits
    simp only [leBytes, leValue]
    omega
  | succ width ih =>
    have hq : n / 256 < fieldRange width := by
      simp only [fieldRange] at fits
      exact Nat.div_lt_of_lt_mul fits
    simp only [leBytes, leValue, ih _ hq, UInt8.toNat_ofNat']
    omega

/-- The number of some bytes fits a field of as many. -/
theorem leValue_lt (bs : Bytes) : leValue bs < fieldRange bs.length := by
  induction bs with
  | nil => exact Nat.one_pos
  | cons b rest ih =>
    have hb := b.toNat_lt
    rw [leValue, List.length_cons, fieldRange]
    omega

/-- Bytes are what their number is written as. -/
theorem leBytes_leValue (bs : Bytes) : leBytes bs.length (leValue bs) = bs := by
  induction bs with
  | nil => rfl
  | cons b rest ih =>
    have hb : b.toNat < 256 := b.toNat_lt
    have hq : (b.toNat + 256 * leValue rest) / 256 = leValue rest := by omega
    simp only [List.length_cons, leValue, leBytes, hq, ih]
    congr 1
    apply UInt8.toNat_inj.mp
    simp only [UInt8.toNat_ofNat']
    omega

end ChatHost
