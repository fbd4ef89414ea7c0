import ChatHost.Base64.UrlSafe
import Mathlib.Tactic.Common

/-!
# One Spelling for Bytes

Every byte string is spelled by one text in the alphabet for addresses, and by no other.

Bytes and characters divide the same bits differently, in groups of eight and of six, and
agree after three bytes. So both directions go in steps of three bytes and four characters,
and a step is arithmetic on what is in one group (`encode_four`). At the end there may be
one byte or two, and then a character has bits left that belong to no byte. The writer leaves
them zero and the reader insists on it, and without that there would be several spellings.

A text that is no spelling fails for one of three reasons: a character outside the
alphabet, a single character at the end, or bits left over at the end. The last two cannot
be if the number of characters is a multiple of four, so of such texts all that is asked is
that the characters are of the alphabet (`exists_decode?`).

## Main definitions

* `Base64.isSymbol`: The alphabet.
* `Base64.Spelling`: A text spells bytes, by groups.

## Theorems

* `Base64.value?_symbol`, `Base64.symbol_of_value?`: Characters and what they stand for.
* `Base64.decode?_encode`: Bytes are read back.
* `Base64.spelling_of_decode?`, `Base64.Spelling.encode_eq`: What can be read is what is
  written.
* `Base64.decode?_eq_some_iff`: A text is read as the bytes that it spells.
* `Base64.length_encode`: How many characters bytes are.
* `Base64.exists_decode?`: Which texts can be read.
-/

namespace ChatHost

namespace Base64

section Alphabet

/-- The alphabet: letters and digits of ASCII, hyphen and underscore. -/
def isSymbol (c : Char) : Bool := c.isAlphanum || c == '-' || c == '_'

theorem value?_symbol {n : Nat} (h : n < 64) : value? (symbol n) = some n := by
  have hall : ∀ m < 64, value? (symbol m) = some m := by decide
  exact hall n h

variable {c : Char}

/-- The alphabet by the numbers of its characters. -/
theorem isSymbol_iff :
    isSymbol c = true ↔ (65 ≤ c.toNat ∧ c.toNat ≤ 90) ∨ (97 ≤ c.toNat ∧ c.toNat ≤ 122) ∨
      (48 ≤ c.toNat ∧ c.toNat ≤ 57) ∨ c = '-' ∨ c = '_' := by
  have hupper : c.isUpper = true ↔ 65 ≤ c.toNat ∧ c.toNat ≤ 90 := decide_eq_true_iff
  have hlower : c.isLower = true ↔ 97 ≤ c.toNat ∧ c.toNat ≤ 122 :=
    Bool.and_eq_true_iff.trans (and_congr decide_eq_true_iff decide_eq_true_iff)
  have hdigit : c.isDigit = true ↔ 48 ≤ c.toNat ∧ c.toNat ≤ 57 :=
    Bool.and_eq_true_iff.trans (and_congr decide_eq_true_iff decide_eq_true_iff)
  have hsplit : isSymbol c = (c.isUpper || c.isLower || c.isDigit || c == '-' || c == '_') := rfl
  rw [hsplit]
  simp only [Bool.or_eq_true, beq_iff_eq, hupper, hlower, hdigit, or_assoc]

/-- A character of the alphabet stands for six bits, and no other does. -/
theorem exists_value?_iff : (∃ n, value? c = some n) ↔ isSymbol c = true := by
  rw [isSymbol_iff, value?]
  simp only [Bool.and_eq_true, decide_eq_true_eq]
  split
  · next h => exact iff_of_true ⟨_, rfl⟩ (Or.inl h)
  · next hupper =>
    split
    · next h => exact iff_of_true ⟨_, rfl⟩ (Or.inr (Or.inl h))
    · next hlower =>
      split
      · next h => exact iff_of_true ⟨_, rfl⟩ (Or.inr (Or.inr (Or.inl h)))
      · next hdigit =>
        split
        · next h => exact iff_of_true ⟨_, rfl⟩ (Or.inr (Or.inr (Or.inr (Or.inl h))))
        · next hhyphen =>
          split
          · next h => exact iff_of_true ⟨_, rfl⟩ (Or.inr (Or.inr (Or.inr (Or.inr h))))
          · next hunderscore => simp [hupper, hlower, hdigit, hhyphen, hunderscore]

/-- Six bits are written as the character that stands for them. -/
theorem symbol_of_value? {n : Nat} (h : value? c = some n) : n < 64 ∧ symbol n = c := by
  have hself : Char.ofNat c.toNat = c := Char.ofNat_toNat c
  rw [value?] at h
  simp only [Bool.and_eq_true, decide_eq_true_eq] at h
  split at h
  · next hc =>
    rw [← Option.some.inj h]
    refine ⟨by omega, ?_⟩
    rw [symbol, if_pos (by omega), Nat.add_sub_cancel' hc.1, hself]
  · split at h
    · next hc =>
      rw [← Option.some.inj h]
      refine ⟨by omega, ?_⟩
      rw [symbol, if_neg (by omega), if_pos (by omega), Nat.add_sub_cancel' (by omega), hself]
    · split at h
      · next hc =>
        rw [← Option.some.inj h]
        refine ⟨by omega, ?_⟩
        rw [symbol, if_neg (by omega), if_neg (by omega), if_pos (by omega),
          Nat.add_sub_cancel, hself]
      · split at h
        · next hc =>
          rw [← Option.some.inj h, hc]
          decide
        · split at h
          · next hc =>
            rw [← Option.some.inj h, hc]
            decide
          · simp at h

theorem isSymbol_symbol {n : Nat} (h : n < 64) : isSymbol (symbol n) = true :=
  exists_value?_iff.mp ⟨n, value?_symbol h⟩

end Alphabet

section Writing

-- A byte is known by its bits.
theorem ofNat_eq (a : UInt8) {n : Nat} (h : n = a.toNat) : UInt8.ofNat n = a := by
  rw [h, UInt8.ofNat_toNat]

/-- Bytes are read back. The induction goes along their groups, and a group is read from the
    bits of its characters. -/
theorem decode?_encode (bytes : Bytes) : decode? (encode bytes) = some bytes := by
  induction bytes using encode.induct with
  | case1 => rfl
  | case2 a =>
      have ha := a.toNat_lt
      simp only [encode, decode?, value?_symbol (n := a.toNat / 4) (by omega),
        value?_symbol (n := a.toNat % 4 * 16) (by omega), Option.bind_eq_bind, Option.bind_some]
      rw [if_pos (by omega), Option.some.injEq, List.cons.injEq]
      exact ⟨ofNat_eq a (by omega), rfl⟩
  | case3 a b =>
      have ha := a.toNat_lt
      have hb := b.toNat_lt
      simp only [encode, decode?, value?_symbol (n := a.toNat / 4) (by omega),
        value?_symbol (n := a.toNat % 4 * 16 + b.toNat / 16) (by omega),
        value?_symbol (n := b.toNat % 16 * 4) (by omega), Option.bind_eq_bind, Option.bind_some]
      rw [if_pos (by omega), Option.some.injEq, List.cons.injEq, List.cons.injEq]
      exact ⟨ofNat_eq a (by omega), ofNat_eq b (by omega), rfl⟩
  | case4 a b c rest ih =>
      have ha := a.toNat_lt
      have hb := b.toNat_lt
      have hc := c.toNat_lt
      simp only [encode, decode?, value?_symbol (n := a.toNat / 4) (by omega),
        value?_symbol (n := a.toNat % 4 * 16 + b.toNat / 16) (by omega),
        value?_symbol (n := b.toNat % 16 * 4 + c.toNat / 64) (by omega),
        value?_symbol (n := c.toNat % 64) (by omega), ih, Option.bind_eq_bind, Option.bind_some,
        Option.pure_def]
      rw [Option.some.injEq, List.cons.injEq, List.cons.injEq, List.cons.injEq]
      exact ⟨ofNat_eq a (by omega), ofNat_eq b (by omega), ofNat_eq c (by omega), rfl⟩

end Writing

section Reading

variable {x y z w : Nat}

/-- The bytes of four characters are written as these. -/
theorem encode_four (hx : x < 64) (hy : y < 64) (hz : z < 64) (hw : w < 64) (rest : Bytes) :
    encode (UInt8.ofNat (x * 4 + y / 16) :: UInt8.ofNat (y % 16 * 16 + z / 4) ::
        UInt8.ofNat (z % 4 * 64 + w) :: rest) =
      symbol x :: symbol y :: symbol z :: symbol w :: encode rest := by
  have ha : (UInt8.ofNat (x * 4 + y / 16)).toNat = x * 4 + y / 16 :=
    UInt8.toNat_ofNat_of_lt' (show _ < 256 by omega)
  have hb : (UInt8.ofNat (y % 16 * 16 + z / 4)).toNat = y % 16 * 16 + z / 4 :=
    UInt8.toNat_ofNat_of_lt' (show _ < 256 by omega)
  have hc : (UInt8.ofNat (z % 4 * 64 + w)).toNat = z % 4 * 64 + w :=
    UInt8.toNat_ofNat_of_lt' (show _ < 256 by omega)
  rw [encode, ha, hb, hc, List.cons.injEq, List.cons.injEq, List.cons.injEq, List.cons.injEq]
  exact ⟨congrArg symbol (by omega), congrArg symbol (by omega), congrArg symbol (by omega),
    congrArg symbol (by omega), rfl⟩

-- At the end, where no byte has the last bits.
theorem encode_three (hx : x < 64) (hy : y < 64) (hz : z < 64) (hzero : z % 4 = 0) :
    encode [UInt8.ofNat (x * 4 + y / 16), UInt8.ofNat (y % 16 * 16 + z / 4)] =
      [symbol x, symbol y, symbol z] := by
  have ha : (UInt8.ofNat (x * 4 + y / 16)).toNat = x * 4 + y / 16 :=
    UInt8.toNat_ofNat_of_lt' (show _ < 256 by omega)
  have hb : (UInt8.ofNat (y % 16 * 16 + z / 4)).toNat = y % 16 * 16 + z / 4 :=
    UInt8.toNat_ofNat_of_lt' (show _ < 256 by omega)
  rw [encode, ha, hb, List.cons.injEq, List.cons.injEq, List.cons.injEq]
  exact ⟨congrArg symbol (by omega), congrArg symbol (by omega), congrArg symbol (by omega), rfl⟩

theorem encode_two (hx : x < 64) (hy : y < 64) (hzero : y % 16 = 0) :
    encode [UInt8.ofNat (x * 4 + y / 16)] = [symbol x, symbol y] := by
  have ha : (UInt8.ofNat (x * 4 + y / 16)).toNat = x * 4 + y / 16 :=
    UInt8.toNat_ofNat_of_lt' (show _ < 256 by omega)
  rw [encode, ha, List.cons.injEq, List.cons.injEq]
  exact ⟨congrArg symbol (by omega), congrArg symbol (by omega), rfl⟩

/-- A text spells bytes, group by group, and bits that belong to no byte are zero. -/
inductive Spelling : List Char → Bytes → Prop
  | nil : Spelling [] []
  | two {x y : Nat} (hx : x < 64) (hy : y < 64) (hzero : y % 16 = 0) :
      Spelling [symbol x, symbol y] [UInt8.ofNat (x * 4 + y / 16)]
  | three {x y z : Nat} (hx : x < 64) (hy : y < 64) (hz : z < 64) (hzero : z % 4 = 0) :
      Spelling [symbol x, symbol y, symbol z]
        [UInt8.ofNat (x * 4 + y / 16), UInt8.ofNat (y % 16 * 16 + z / 4)]
  | four {x y z w : Nat} {cs : List Char} {bytes : Bytes} (hx : x < 64) (hy : y < 64)
      (hz : z < 64) (hw : w < 64) (hrest : Spelling cs bytes) :
      Spelling (symbol x :: symbol y :: symbol z :: symbol w :: cs)
        (UInt8.ofNat (x * 4 + y / 16) :: UInt8.ofNat (y % 16 * 16 + z / 4) ::
          UInt8.ofNat (z % 4 * 64 + w) :: bytes)

variable {cs : List Char} {bytes : Bytes}

/-- What can be read is a spelling of what is read. -/
theorem spelling_of_decode? (h : decode? cs = some bytes) : Spelling cs bytes := by
  induction cs using decode?.induct generalizing bytes with
  | case1 =>
      rw [← Option.some.inj h]
      exact .nil
  | case2 => simp [decode?] at h
  | case3 p q =>
      simp only [decode?, Option.bind_eq_bind, Option.bind_eq_some_iff] at h
      rcases h with ⟨x, hp, y, hq, h⟩
      rcases symbol_of_value? hp with ⟨hx, rfl⟩
      rcases symbol_of_value? hq with ⟨hy, rfl⟩
      split at h
      · next hzero =>
        rw [← Option.some.inj h]
        exact .two hx hy hzero
      · simp at h
  | case4 p q r =>
      simp only [decode?, Option.bind_eq_bind, Option.bind_eq_some_iff] at h
      rcases h with ⟨x, hp, y, hq, z, hr, h⟩
      rcases symbol_of_value? hp with ⟨hx, rfl⟩
      rcases symbol_of_value? hq with ⟨hy, rfl⟩
      rcases symbol_of_value? hr with ⟨hz, rfl⟩
      split at h
      · next hzero =>
        rw [← Option.some.inj h]
        exact .three hx hy hz hzero
      · simp at h
  | case5 p q r s rest ih =>
      simp only [decode?, Option.bind_eq_bind, Option.bind_eq_some_iff] at h
      rcases h with ⟨x, hp, y, hq, z, hr, w, hs, tail, htail, h⟩
      rcases symbol_of_value? hp with ⟨hx, rfl⟩
      rcases symbol_of_value? hq with ⟨hy, rfl⟩
      rcases symbol_of_value? hr with ⟨hz, rfl⟩
      rcases symbol_of_value? hs with ⟨hw, rfl⟩
      rw [← Option.some.inj h]
      exact .four hx hy hz hw (ih htail)

/-- Bytes are written as any spelling of them, so there is only one. -/
theorem Spelling.encode_eq (h : Spelling cs bytes) : encode bytes = cs := by
  induction h with
  | nil => rfl
  | two hx hy hzero => exact encode_two hx hy hzero
  | three hx hy hz hzero => exact encode_three hx hy hz hzero
  | four hx hy hz hw _ ih => rw [encode_four hx hy hz hw, ih]

/-- Nothing is spelled with other characters than those of the alphabet. -/
theorem Spelling.symbols (h : Spelling cs bytes) : ∀ c ∈ cs, isSymbol c = true := by
  induction h with
  | nil => exact fun _ hc => absurd hc List.not_mem_nil
  | two hx hy =>
      simp only [List.forall_mem_cons]
      exact ⟨isSymbol_symbol hx, isSymbol_symbol hy, fun _ hc => absurd hc List.not_mem_nil⟩
  | three hx hy hz =>
      simp only [List.forall_mem_cons]
      exact ⟨isSymbol_symbol hx, isSymbol_symbol hy, isSymbol_symbol hz,
        fun _ hc => absurd hc List.not_mem_nil⟩
  | four hx hy hz hw _ ih =>
      simp only [List.forall_mem_cons]
      exact ⟨isSymbol_symbol hx, isSymbol_symbol hy, isSymbol_symbol hz, isSymbol_symbol hw, ih⟩

/-- A text is read as the bytes that it spells. -/
theorem decode?_eq_some_iff : decode? cs = some bytes ↔ encode bytes = cs := by
  refine ⟨fun h => (spelling_of_decode? h).encode_eq, ?_⟩
  rintro rfl
  exact decode?_encode bytes

end Reading

section Texts

/-- Bytes have four characters for every three of them, and two or three for those that are
    left over. -/
theorem length_encode (bytes : Bytes) : (encode bytes).length = (4 * bytes.length + 2) / 3 := by
  induction bytes using encode.induct with
  | case1 => rfl
  | case2 => simp only [encode, List.length_cons, List.length_nil]
  | case3 => simp only [encode, List.length_cons, List.length_nil]
  | case4 a b c rest ih =>
      simp only [encode, List.length_cons, ih]
      omega

/-- A text of as many characters as whole groups have can be read if they are of the
    alphabet. -/
theorem exists_decode? {cs : List Char} (hgroups : cs.length % 4 = 0)
    (hsymbols : ∀ c ∈ cs, isSymbol c = true) : ∃ bytes, decode? cs = some bytes := by
  induction cs using decode?.induct with
  | case1 => exact ⟨[], rfl⟩
  | case2 => simp at hgroups
  | case3 => simp at hgroups
  | case4 => simp at hgroups
  | case5 p q r s rest ih =>
      simp only [List.forall_mem_cons] at hsymbols
      rcases hsymbols with ⟨hp, hq, hr, hs, hrest⟩
      rcases exists_value?_iff.mpr hp with ⟨x, hx⟩
      rcases exists_value?_iff.mpr hq with ⟨y, hy⟩
      rcases exists_value?_iff.mpr hr with ⟨z, hz⟩
      rcases exists_value?_iff.mpr hs with ⟨w, hw⟩
      simp only [List.length_cons] at hgroups
      rcases ih (by omega) hrest with ⟨bytes, hbytes⟩
      simp only [decode?, hx, hy, hz, hw, hbytes, Option.bind_eq_bind, Option.bind_some,
        Option.pure_def]
      exact ⟨_, rfl⟩

end Texts

end Base64

end ChatHost
