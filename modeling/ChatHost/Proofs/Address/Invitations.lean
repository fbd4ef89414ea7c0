import ChatHost.Invitation
import ChatHost.Proofs.Base64.RoundTrip
import Mathlib.Data.List.DropRight

/-!
# One Code for an Invitation

Invitations and their codes correspond to each other, one to one.

A code is the one spelling of six bytes (`Base64.decode?_eq_some_iff`), and six bytes are one
invitation, so a code and the invitation that it stands for say the same. Six bytes are eight
characters. So of the texts that spell bytes at all, the length of the text decides whether
it is a code, and the bytes need not be counted.

What people paste has blanks around it, and these are dropped. No character of a code is
blank, so a code is what is left of itself, and of nothing else but itself with blanks
around it (`Text.trim_eq_iff`).

## Main definitions

* `Text.Bare`: A text neither begins nor ends with a blank.

## Theorems

* `Text.trim_eq_iff`: What is left of a text without the blanks around it.
* `Invitation.ofCode_eq_ok_iff`: A text stands for an invitation if it is its code.
* `Invitation.exists_ofCode_iff`: Which texts stand for some invitation.
* `Invitation.codes_one_to_one`: What is known of all invitations, and of all texts.
-/

namespace ChatHost

namespace Text

/-- A text neither begins nor ends with a blank. -/
structure Bare (cs : List Char) : Prop where
  head : ∀ c ∈ cs.head?, isBlank c = false
  last : ∀ c ∈ cs.getLast?, isBlank c = false

theorem bare_of_forall {cs : List Char} (h : ∀ c ∈ cs, isBlank c = false) : Bare cs :=
  ⟨fun c hc => h c (List.mem_of_mem_head? hc), fun c hc => h c (List.mem_of_mem_getLast? hc)⟩

-- The blanks at the end, as the library has them.
theorem dropBlankEnd_eq (cs : List Char) : dropBlankEnd cs = cs.rdropWhile isBlank := rfl

theorem bare_trimmed (cs : List Char) : Bare ((cs.dropWhile isBlank).rdropWhile isBlank) := by
  rcases List.rdropWhile_prefix isBlank (cs.dropWhile isBlank) with ⟨after, hsplit⟩
  constructor
  · intro c hc
    -- The first character is not changed by what is dropped behind it.
    have hfirst : c ∈ (cs.dropWhile isBlank).head? := by
      rw [← hsplit, List.head?_append, Option.mem_def.mp hc]
      rfl
    have hnone := List.head?_dropWhile_not isBlank cs
    rw [Option.mem_def.mp hfirst] at hnone
    exact hnone
  · intro c hc
    rcases List.mem_getLast?_eq_getLast hc with ⟨hne, rfl⟩
    exact Bool.eq_false_iff.mpr (List.rdropWhile_last_not isBlank _ hne)

theorem rdropWhile_append_blank {cs after : List Char} (h : ∀ c ∈ after, isBlank c = true) :
    (cs ++ after).rdropWhile isBlank = cs.rdropWhile isBlank := by
  rw [List.rdropWhile, List.reverse_append,
    List.dropWhile_append_of_pos fun c hc => h c (List.mem_reverse.mp hc), List.rdropWhile]

/-- Of a text between blanks nothing is dropped but these. -/
theorem trimmed_of_bare {before cs after : List Char} (hbare : Bare cs)
    (hbefore : ∀ c ∈ before, isBlank c = true) (hafter : ∀ c ∈ after, isBlank c = true) :
    ((before ++ cs ++ after).dropWhile isBlank).rdropWhile isBlank = cs := by
  rw [List.append_assoc, List.dropWhile_append_of_pos hbefore]
  cases cs with
  | nil =>
      rw [List.nil_append, List.dropWhile_eq_nil_iff.mpr hafter, List.rdropWhile_nil]
  | cons c rest =>
      have hhead := hbare.head c rfl
      rw [List.cons_append, List.dropWhile_cons_of_neg (Bool.eq_false_iff.mp hhead),
        ← List.cons_append, rdropWhile_append_blank hafter, List.rdropWhile_eq_self_iff]
      intro hne
      exact Bool.eq_false_iff.mp (hbare.last _ (List.getLast?_eq_some_getLast hne))

/-- What is left of a text is what it is with blanks around it, and neither begins nor ends
    with one. -/
theorem trim_eq_iff {s t : String} :
    trim s = t ↔ Bare t.toList ∧ ∃ before after : List Char,
      s.toList = before ++ t.toList ++ after ∧ ∀ c ∈ before ++ after, isBlank c = true := by
  rw [trim, dropBlankEnd_eq]
  constructor
  · rintro rfl
    rw [String.toList_ofList]
    refine ⟨bare_trimmed _, s.toList.takeWhile isBlank,
      (s.toList.dropWhile isBlank).rtakeWhile isBlank, ?_, fun c hc => ?_⟩
    · rw [List.append_assoc, List.rdropWhile_append_rtakeWhile, List.takeWhile_append_dropWhile]
    · rcases List.mem_append.mp hc with hc | hc
      · exact List.mem_takeWhile_imp hc
      · exact List.mem_rtakeWhile_imp hc
  · rintro ⟨hbare, before, after, hsplit, hblank⟩
    rw [List.forall_mem_append] at hblank
    rw [hsplit, trimmed_of_bare hbare hblank.1 hblank.2, String.ofList_toList]

end Text

-- No character of the alphabet is blank.
theorem Base64.isBlank_of_isSymbol {c : Char} (h : isSymbol c = true) :
    Text.isBlank c = false := by
  have hnumber : (65 ≤ c.toNat ∧ c.toNat ≤ 90) ∨ (97 ≤ c.toNat ∧ c.toNat ≤ 122) ∨
      (48 ≤ c.toNat ∧ c.toNat ≤ 57) ∨ c.toNat = 45 ∨ c.toNat = 95 := by
    rcases isSymbol_iff.mp h with h | h | h | rfl | rfl
    · exact Or.inl h
    · exact Or.inr (Or.inl h)
    · exact Or.inr (Or.inr (Or.inl h))
    · decide
    · decide
  simp only [Text.isBlank, Bool.or_eq_false_iff, Bool.and_eq_false_iff, decide_eq_false_iff_not,
    beq_eq_false_iff_ne]
  omega

namespace Invitation

section Codes

variable {s : String} {invitation : Invitation}

theorem length_bytes (invitation : Invitation) : invitation.bytes.length = 6 := rfl

theorem toList_code (invitation : Invitation) :
    invitation.code.toList = Base64.encode invitation.bytes :=
  String.toList_ofList

theorem length_code (invitation : Invitation) : invitation.code.length = 8 := by
  rw [← String.length_toList, toList_code, Base64.length_encode, length_bytes]

theorem isSymbol_of_mem_code : ∀ c ∈ invitation.code.toList, Base64.isSymbol c = true := by
  rw [toList_code]
  exact (Base64.spelling_of_decode? (Base64.decode?_encode invitation.bytes)).symbols

-- Any six bytes are those of an invitation.
theorem bytes_mk (a b c d low high : UInt8) :
    bytes ⟨⟨a, b, c, d⟩, UInt16.ofNat (leValue [low, high])⟩ = [a, b, c, d, low, high] := by
  have hnumber : (UInt16.ofNat (leValue [low, high])).toNat = leValue [low, high] :=
    UInt16.toNat_ofNat_of_lt (leValue_lt [low, high])
  rw [bytes, hnumber]
  exact congrArg ([a, b, c, d] ++ ·) (leBytes_leValue [low, high])

/-- A text stands for the invitation whose bytes it spells. -/
theorem ofCode_eq_ok_iff_decode? :
    ofCode s = .ok invitation ↔
      Base64.decode? (Text.trim s).toList = some invitation.bytes := by
  rw [ofCode]
  constructor
  · intro h
    split at h
    · simp at h
    · next hraw => rw [hraw, ← Except.ok.inj h, bytes_mk]
    · simp at h
  · intro h
    have hserver : UInt16.ofNat (leValue (leBytes 2 invitation.server.toNat)) =
        invitation.server := by
      rw [leValue_leBytes 2 _ invitation.server.toNat_lt, UInt16.ofNat_toNat]
    have hsame : (⟨invitation.host, UInt16.ofNat (leValue (leBytes 2 invitation.server.toNat))⟩ :
        Invitation) = invitation := by rw [hserver]
    rw [h]
    exact congrArg Except.ok hsame

/-- A text stands for an invitation exactly if it is its code, with any blanks around it. -/
theorem ofCode_eq_ok_iff : ofCode s = .ok invitation ↔ invitation.code = Text.trim s := by
  rw [ofCode_eq_ok_iff_decode?, Base64.decode?_eq_some_iff, ← toList_code, String.toList_inj]

/-- A code stands for its invitation. -/
theorem ofCode_code (invitation : Invitation) : ofCode invitation.code = .ok invitation := by
  rw [ofCode_eq_ok_iff, eq_comm, Text.trim_eq_iff]
  have hbare := Text.bare_of_forall fun c hc =>
    Base64.isBlank_of_isSymbol (invitation.isSymbol_of_mem_code c hc)
  exact ⟨hbare, [], [], (List.append_nil _).symm, fun c hc => absurd hc List.not_mem_nil⟩

/-- A text stands for some invitation exactly if eight characters of the alphabet are left
    of it without the blanks around it. -/
theorem exists_ofCode_iff :
    (∃ invitation, ofCode s = .ok invitation) ↔
      (Text.trim s).length = 8 ∧ ∀ c ∈ (Text.trim s).toList, Base64.isSymbol c = true := by
  constructor
  · rintro ⟨invitation, h⟩
    rw [← ofCode_eq_ok_iff.mp h]
    exact ⟨invitation.length_code, invitation.isSymbol_of_mem_code⟩
  · rintro ⟨hlength, hsymbols⟩
    rw [← String.length_toList] at hlength
    rcases Base64.exists_decode? (by rw [hlength]) hsymbols with ⟨raw, hraw⟩
    -- Eight characters are six bytes.
    have hsix : raw.length = 6 := by
      rw [← Base64.decode?_eq_some_iff.mp hraw, Base64.length_encode] at hlength
      omega
    match raw, hsix with
    | [a, b, c, d, low, high], _ =>
      rw [← bytes_mk] at hraw
      exact ⟨_, ofCode_eq_ok_iff_decode?.mpr hraw⟩

end Codes

/-- Every invitation has a code of eight characters of the alphabet, which stands for it. A
    text stands for some invitation exactly if eight characters of the alphabet are left of
    it without the blanks around it, and then these are the code of the invitation; so it
    stands for none if another number of characters is left, or a character for padding or
    one that is of the other alphabet only. And texts of which different characters are
    left do not stand for the same address. -/
theorem codes_one_to_one :
    (∀ (host : Ipv4) (server : ServerId), ∃ invitation,
      forServer (.v4 host) server = .ok invitation ∧
      invitation.address = { ip := .v4 host, port := server } ∧
      invitation.code.length = 8 ∧
      (∀ c ∈ invitation.code.toList, Base64.isSymbol c = true) ∧
      ofCode invitation.code = .ok invitation) ∧
    (∀ s : String,
      ((∃ invitation, ofCode s = .ok invitation) ↔
        (Text.trim s).length = 8 ∧ ∀ c ∈ (Text.trim s).toList, Base64.isSymbol c = true) ∧
      (∀ invitation, ofCode s = .ok invitation ↔ invitation.code = Text.trim s) ∧
      ((Text.trim s).length ≠ 8 ∨ (∃ c ∈ (Text.trim s).toList, c = '=' ∨ c = '+' ∨ c = '/') →
        ∀ invitation, ofCode s ≠ .ok invitation)) ∧
    ∀ (s t : String) (i j : Invitation), ofCode s = .ok i → ofCode t = .ok j →
      Text.trim s ≠ Text.trim t → i.address ≠ j.address := by
  refine ⟨fun host server => ⟨⟨host, server⟩, rfl, rfl, length_code _, isSymbol_of_mem_code,
    ofCode_code _⟩, fun s => ⟨exists_ofCode_iff, fun _ => ofCode_eq_ok_iff, ?_⟩, ?_⟩
  · intro hother invitation h
    rcases exists_ofCode_iff.mp ⟨invitation, h⟩ with ⟨hlength, hsymbols⟩
    rcases hother with hother | ⟨c, hc, rfl | rfl | rfl⟩
    · exact hother hlength
    · exact absurd (hsymbols _ hc) (by decide)
    · exact absurd (hsymbols _ hc) (by decide)
    · exact absurd (hsymbols _ hc) (by decide)
  · intro s t i j hs ht hne haddress
    -- The address says all that the invitation says.
    have hsame : i = j := by
      rcases i with ⟨host, server⟩
      rcases j with ⟨host', server'⟩
      simp only [address, SocketAddress.mk.injEq, Ip.v4.injEq] at haddress
      rw [haddress.1, haddress.2.1]
    rw [← ofCode_eq_ok_iff.mp hs, ← ofCode_eq_ok_iff.mp ht, hsame] at hne
    exact hne rfl

/-- Two codes that have been pasted with blanks, and what they stand for. -/
theorem pasted_codes_apart :
    ofCode " CgAAAqAP\n" = .ok ⟨⟨10, 0, 0, 2⟩, 4000⟩ ∧
      ofCode "wKgACkOw" = .ok ⟨⟨192, 168, 0, 10⟩, 45123⟩ ∧
      address ⟨⟨10, 0, 0, 2⟩, 4000⟩ ≠ address ⟨⟨192, 168, 0, 10⟩, 45123⟩ := by
  have hpasted : ofCode " CgAAAqAP\n" = .ok ⟨⟨10, 0, 0, 2⟩, 4000⟩ := by cbv
  have hbare : ofCode "wKgACkOw" = .ok ⟨⟨192, 168, 0, 10⟩, 45123⟩ := by cbv
  have hleft : Text.trim " CgAAAqAP\n" ≠ Text.trim "wKgACkOw" := by decide +kernel
  exact ⟨hpasted, hbare, codes_one_to_one.2.2 _ _ _ _ hpasted hbare hleft⟩

end Invitation

end ChatHost
