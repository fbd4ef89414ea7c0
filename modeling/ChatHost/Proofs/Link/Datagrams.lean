import ChatHost.Proofs.Link.Arrival

/-!
# Datagrams and Frames

Which datagrams are read as frames, and that each frame is read from one datagram only.

A header has four numbers in fixed places, and the payload is whatever stands behind them.
So a datagram that is long enough always says something (`Frame.Spells`), and what it says
is a frame if the first of the numbers is that of a kind and the last two are those of a
piece that there can be (`Frame.Possible`). Nothing else is judged. In particular, no byte
of a datagram is passed over, and this is why a frame that has been read is written as the
datagram that it was read from.

The other way round it is not enough that a frame is a frame. Its type has room for pieces
that there cannot be, and those are written but not read again.

## Main definitions

* `Frame.field`: The number in some bytes of a datagram.
* `Frame.Possible`: There can be a piece of some number among so many.
* `Frame.Spells`: The fields of a frame stand in a datagram where they belong.

## Theorems

* `Frame.encode_eq_of_spells`: A datagram is all that is said in it.
* `Frame.spells_of_decode`: What is read is what stands there.
* `Frame.decode_of_spells`: What stands there is read if it is possible.
* `Frame.exists_spelled`: Which datagrams say something possible.
* `Frame.datagrams_read_exactly`: What is read of all datagrams, and of all frames.
-/

namespace ChatHost

namespace FrameKind

variable {n : UInt8} {kind : FrameKind}

theorem code_of_ofCode? (h : ofCode? n = some kind) : kind.code = n := by
  rw [ofCode?] at h
  split at h
  · next hn => rw [← Option.some.inj h, hn, code]
  · split at h
    · next hn => rw [← Option.some.inj h, hn, code]
    · split at h
      · next hn => rw [← Option.some.inj h, hn, code]
      · simp at h

theorem code_le (kind : FrameKind) : kind.code.toNat ≤ 2 := by
  cases kind <;> decide

-- Kinds are numbered from zero, without a gap.
theorem exists_code_eq {n : Nat} (h : n ≤ 2) : ∃ kind : FrameKind, kind.code.toNat = n := by
  match n, h with
  | 0, _ => exact ⟨message, rfl⟩
  | 1, _ => exact ⟨request, rfl⟩
  | 2, _ => exact ⟨response, rfl⟩

end FrameKind

namespace Frame

/-- The number in `width` bytes of a datagram from `start` on, the lowest byte first. -/
def field (bs : Bytes) (start width : Nat) : Nat := leValue ((bs.drop start).take width)

/-- There can be a piece of some number, counted from zero, among so many. -/
def Possible (fragment fragments : Nat) : Prop :=
  1 ≤ fragments ∧ fragments ≤ 512 ∧ fragment < fragments

instance (fragment fragments : Nat) : Decidable (Possible fragment fragments) :=
  inferInstanceAs (Decidable (_ ∧ _ ∧ _))

/-- The fields of a frame stand in a datagram where they belong, and the payload is all
    that stands behind them. -/
structure Spells (bs : Bytes) (frame : Frame) : Prop where
  header : 9 ≤ bs.length
  kind : field bs 0 1 = frame.kind.code.toNat
  correlation : field bs 1 4 = frame.correlation.toNat
  fragment : field bs 5 2 = frame.fragment.toNat
  fragments : field bs 7 2 = frame.fragments.toNat
  payload : bs.drop 9 = frame.payload

theorem validFragment_iff {fragment fragments : UInt16} :
    validFragment fragment fragments = true ↔ Possible fragment.toNat fragments.toNat := by
  have hzero : fragments ≠ 0 ↔ 1 ≤ fragments.toNat := by
    rw [Nat.one_le_iff_ne_zero, ← UInt16.toNat_zero, ne_eq, ne_eq, UInt16.toNat_inj]
  rw [validFragment, Bool.and_eq_true, Bool.and_eq_true, bne_iff_ne, decide_eq_true_eq,
    decide_eq_true_eq, UInt16.lt_iff_toNat_lt, hzero, and_assoc, and_comm (a := _ < _)]
  rfl

section Fields

variable {bs : Bytes} {start width : Nat}

-- A field that is there has all its bytes.
theorem length_take_drop (h : start + width ≤ bs.length) :
    ((bs.drop start).take width).length = width := by
  rw [List.length_take, List.length_drop]
  omega

theorem field_lt (h : start + width ≤ bs.length) : field bs start width < fieldRange width := by
  have hlt := leValue_lt ((bs.drop start).take width)
  rwa [length_take_drop h] at hlt

/-- A field that is there is what its number is written as. -/
theorem leBytes_field (h : start + width ≤ bs.length) :
    leBytes width (field bs start width) = (bs.drop start).take width := by
  have hbytes := leBytes_leValue ((bs.drop start).take width)
  rwa [length_take_drop h] at hbytes

end Fields

section Reading

variable {bs : Bytes} {frame : Frame}

-- The number of a kind is one byte.
theorem leBytes_code (kind : FrameKind) : leBytes 1 kind.code.toNat = [kind.code] := by
  rw [leBytes, leBytes, UInt8.ofNat_toNat]

/-- A datagram is all that is said in it, so no byte of it is passed over. -/
theorem encode_eq_of_spells (h : Spells bs frame) : frame.encode = bs := by
  have hlength := h.header
  have hsplit : ∀ (i width : Nat),
      (bs.drop i).take width ++ bs.drop (i + width) = bs.drop i := fun i width => by
    rw [← List.drop_drop, List.take_append_drop]
  calc frame.encode
      = leBytes 1 (field bs 0 1) ++ (leBytes 4 (field bs 1 4) ++ (leBytes 2 (field bs 5 2) ++
          (leBytes 2 (field bs 7 2) ++ bs.drop 9))) := by
        rw [h.kind, h.correlation, h.fragment, h.fragments, h.payload, leBytes_code, encode]
        simp only [List.append_assoc, List.cons_append, List.nil_append]
    _ = bs := by
        rw [leBytes_field (by omega), leBytes_field (by omega), leBytes_field (by omega),
          leBytes_field (by omega), hsplit 7 2, hsplit 5 2, hsplit 1 4, hsplit 0 1, List.drop_zero]

/-- What is read is what stands there, and is possible. -/
theorem spells_of_decode (h : decode bs = .ok frame) :
    Spells bs frame ∧ Possible frame.fragment.toNat frame.fragments.toNat := by
  rw [decode.eq_def] at h
  split at h
  · next k c0 c1 c2 c3 i0 i1 n0 n1 payload =>
    have hheader : 9 ≤ (k :: c0 :: c1 :: c2 :: c3 :: i0 :: i1 :: n0 :: n1 :: payload).length :=
      Nat.le_add_left 9 payload.length
    split at h
    · simp at h
    · next kind hkind =>
      simp only at h
      split at h
      · next hvalid =>
        rw [← Except.ok.inj h]
        refine ⟨⟨hheader, ?_, ?_, ?_, ?_, rfl⟩, validFragment_iff.mp hvalid⟩
        · rw [FrameKind.code_of_ofCode? hkind]
          rfl
        · exact (UInt32.toNat_ofNat_of_lt (leValue_lt [c0, c1, c2, c3])).symm
        · exact (UInt16.toNat_ofNat_of_lt (leValue_lt [i0, i1])).symm
        · exact (UInt16.toNat_ofNat_of_lt (leValue_lt [n0, n1])).symm
      · simp at h
  · simp at h

theorem decode_of_spells (h : Spells bs frame)
    (hpossible : Possible frame.fragment.toNat frame.fragments.toNat) :
    decode bs = .ok frame := by
  rw [← encode_eq_of_spells h]
  exact decode_encode (validFragment_iff.mpr hpossible)

/-- A datagram that is long enough says something if it names a kind, whether that is
    possible or not. -/
theorem exists_spelled (hheader : 9 ≤ bs.length) (hkind : field bs 0 1 ≤ 2) :
    ∃ frame, Spells bs frame := by
  rcases FrameKind.exists_code_eq hkind with ⟨kind, hkind⟩
  refine ⟨{ kind, correlation := UInt32.ofNat (field bs 1 4),
            fragment := UInt16.ofNat (field bs 5 2), fragments := UInt16.ofNat (field bs 7 2),
            payload := bs.drop 9 }, hheader, hkind.symm, ?_, ?_, ?_, rfl⟩
  · exact (UInt32.toNat_ofNat_of_lt (field_lt (by omega))).symm
  · exact (UInt16.toNat_ofNat_of_lt (field_lt (by omega))).symm
  · exact (UInt16.toNat_ofNat_of_lt (field_lt (by omega))).symm

end Reading

/-- A datagram is read exactly if it has the 9 bytes of a header, its first byte is at most
    2, and it has the number of a piece that there can be; what is read stands there, and
    is written as that datagram. And a frame with a piece that there can be is read from
    what it is written as, so no two of them are written alike. -/
theorem datagrams_read_exactly :
    (∀ bs : Bytes,
      ((∃ frame, decode bs = .ok frame) ↔
        9 ≤ bs.length ∧ field bs 0 1 ≤ 2 ∧ Possible (field bs 5 2) (field bs 7 2)) ∧
      ∀ frame, decode bs = .ok frame →
        Spells bs frame ∧ Possible frame.fragment.toNat frame.fragments.toNat ∧
          frame.encode = bs) ∧
    (∀ frame : Frame, Possible frame.fragment.toNat frame.fragments.toNat →
      decode frame.encode = .ok frame) ∧
    ∀ f g : Frame, Possible f.fragment.toNat f.fragments.toNat →
      Possible g.fragment.toNat g.fragments.toNat → f.encode = g.encode → f = g := by
  have hread : ∀ frame : Frame, Possible frame.fragment.toNat frame.fragments.toNat →
      decode frame.encode = .ok frame := fun frame h => decode_encode (validFragment_iff.mpr h)
  refine ⟨fun bs => ⟨⟨?_, ?_⟩, fun frame h => ?_⟩, hread, fun f g hf hg h => ?_⟩
  · rintro ⟨frame, h⟩
    rcases spells_of_decode h with ⟨hspells, hpossible⟩
    refine ⟨hspells.header, ?_, ?_⟩
    · rw [hspells.kind]
      exact frame.kind.code_le
    · rw [hspells.fragment, hspells.fragments]
      exact hpossible
  · rintro ⟨hheader, hkind, hpossible⟩
    rcases exists_spelled hheader hkind with ⟨frame, hspells⟩
    rw [hspells.fragment, hspells.fragments] at hpossible
    exact ⟨frame, decode_of_spells hspells hpossible⟩
  · rcases spells_of_decode h with ⟨hspells, hpossible⟩
    exact ⟨hspells, hpossible, encode_eq_of_spells hspells⟩
  · have hsame := hread f hf
    rw [h, hread g hg] at hsame
    exact (Except.ok.inj hsame).symm

/-- The last piece of the most pieces that there can be, in a datagram and back. -/
theorem last_piece_read_back :
    ∃ frame, decode [1, 4, 3, 2, 1, 255, 1, 0, 2, 97] = .ok frame ∧
      frame.encode = [1, 4, 3, 2, 1, 255, 1, 0, 2, 97] ∧
      frame = ⟨.request, 0x01020304, 511, 512, [97]⟩ := by
  have hpossible : Possible 511 512 := by decide
  have hdatagram := datagrams_read_exactly.1 [1, 4, 3, 2, 1, 255, 1, 0, 2, 97]
  rcases hdatagram.1.mpr ⟨by decide, by decide, hpossible⟩ with ⟨frame, hframe⟩
  rcases hdatagram.2 frame hframe with ⟨-, hfits, hencode⟩
  refine ⟨frame, hframe, hencode, ?_⟩
  exact datagrams_read_exactly.2.2 frame ⟨.request, 0x01020304, 511, 512, [97]⟩ hfits hpossible
    hencode

-- One piece more than there can be, and a piece behind the last.
example : decode [1, 4, 3, 2, 1, 0, 0, 1, 2] = .error (.noSuchFragment 0 513) := by decide

example : decode [2, 1, 0, 0, 0, 3, 0, 3, 0] = .error (.noSuchFragment 3 3) := by decide

end Frame

end ChatHost
