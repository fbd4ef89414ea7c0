import ChatHost.Link.Frame
import Mathlib.Data.List.Basic

/-!
# Pieces of a Packet

What `Frame.split` makes of a packet.

A packet that fits into one datagram and one that does not are split by
different branches, and so a frame that carries a whole packet looks like
something of its own. It is not: it is piece zero of one, and what it carries is
the only piece of the packet. Everything about split packets is said here of
their pieces (`Frame.cut`), and of frames that carry one of them under its number
(`Frame.IsPiece`), whatever the length of the packet.

Numbers of pieces have 16 bits in a frame. They are never cut off, because a
packet of more than `Frame.maxFragments` pieces is refused.

## Main definitions

* `Frame.cut`: The pieces of a packet.
* `Frame.IsPiece`: A frame carries one of some pieces, under its number.

## Theorems

* `Frame.cut_flatten`: The pieces of a packet are the packet.
* `Frame.split_eq`: A packet is refused exactly if it is too large.
* `Frame.isPiece_of_split`: A frame of a packet carries a piece of it.
* `Frame.IsPiece.eq_whole`: One that is not split carries the packet.
-/

namespace ChatHost

namespace Frame

-- As many pieces as are asked for.
theorem length_slices (size count : Nat) (bs : Bytes) :
    (slices size count bs).length = count := by
  induction count generalizing bs with
  | zero => rfl
  | succ count ih => rw [slices, List.length_cons, ih]

-- Pieces are the byte string if there are enough of them.
theorem slices_flatten (size count : Nat) (bs : Bytes) (h : bs.length ≤ count * size) :
    (slices size count bs).flatten = bs := by
  induction count generalizing bs with
  | zero =>
      rw [Nat.zero_mul, Nat.le_zero] at h
      rw [List.eq_nil_of_length_eq_zero h]
      rfl
  | succ count ih =>
      have hrest : (bs.drop size).length ≤ count * size := by
        rw [List.length_drop, Nat.sub_le_iff_le_add, ← Nat.succ_mul]
        exact h
      rw [slices, List.flatten_cons, ih _ hrest, List.take_append_drop]

/-- The pieces of a packet. One that fits into a datagram is its own only piece. -/
def cut (payload : Bytes) : List Bytes :=
  if payload.length ≤ maxPayload then [payload]
  else slices maxPayload (pieces payload.length) payload

theorem cut_flatten (payload : Bytes) : (cut payload).flatten = payload := by
  rw [cut]
  split
  · exact List.append_nil payload
  · apply slices_flatten
    simp only [pieces, maxPayload]
    omega

-- A packet that is not too large has no more pieces than a frame can count.
theorem length_cut_le {payload : Bytes} (h : payload.length ≤ maxPacket) :
    (cut payload).length ≤ maxFragments := by
  rw [cut]
  split
  · exact Nat.succ_le_of_lt (by decide)
  · rw [length_slices]
    simp only [pieces, maxPacket, maxPayload, maxFragments] at h ⊢
    omega

/-- A packet goes in its pieces, each under its number, or not at all. -/
theorem split_eq (kind : FrameKind) (correlation : UInt32) (payload : Bytes) :
    split kind correlation payload =
      if payload.length ≤ maxPacket then
        .ok <| (cut payload).mapIdx fun i piece =>
          { kind, correlation, fragment := UInt16.ofNat i,
            fragments := UInt16.ofNat (cut payload).length, payload := piece }
      else .error (.tooLarge payload.length maxPacket) := by
  by_cases hfits : payload.length ≤ maxPayload
  · have hlength : payload.length ≤ maxPacket := Nat.le_trans hfits (by decide)
    have hcut : cut payload = [payload] := by rw [cut, if_pos hfits]
    simp only [split, if_pos hfits, if_pos hlength, hcut]
    rfl
  · have hcut : cut payload = slices maxPayload (pieces payload.length) payload := by
      rw [cut, if_neg hfits]
    have hmany : maxFragments < pieces payload.length ↔ ¬ payload.length ≤ maxPacket := by
      simp only [pieces, maxPacket, maxPayload, maxFragments]
      omega
    simp only [split, if_neg hfits, hmany, hcut, length_slices, ite_not]

/-- A frame carries one of some pieces, under its number. -/
structure IsPiece (frame : Frame) (pieces : List Bytes) : Prop where
  count : frame.fragments.toNat = pieces.length
  piece : pieces[frame.fragment.toNat]? = some frame.payload

/-- The frames of a packet carry its pieces. -/
theorem isPiece_of_split {kind : FrameKind} {correlation : UInt32} {payload : Bytes}
    {frames : List Frame} (h : split kind correlation payload = .ok frames) {frame : Frame}
    (hframe : frame ∈ frames) :
    frame.kind = kind ∧ frame.correlation = correlation ∧ frame.IsPiece (cut payload) := by
  rw [split_eq] at h
  split at h
  · next hlength =>
    rw [← Except.ok.inj h] at hframe
    rcases List.mem_iff_getElem?.mp hframe with ⟨i, hi⟩
    rw [List.getElem?_mapIdx, Option.map_eq_some_iff] at hi
    rcases hi with ⟨piece, hpiece, rfl⟩
    have hcount := length_cut_le hlength
    have hnumber := (List.getElem?_eq_some_iff.mp hpiece).1
    have hsize : maxFragments < UInt16.size := by decide
    refine ⟨rfl, rfl, ?_, ?_⟩
    · exact UInt16.toNat_ofNat_of_lt (by omega)
    · have hfragment : (UInt16.ofNat i).toNat = i := UInt16.toNat_ofNat_of_lt (by omega)
      exact hfragment.symm ▸ hpiece
  · simp at h

namespace IsPiece

variable {frame : Frame} {pieces : List Bytes}

theorem lt (h : frame.IsPiece pieces) : frame.fragment < frame.fragments := by
  rw [UInt16.lt_iff_toNat_lt, h.count]
  exact (List.getElem?_eq_some_iff.mp h.piece).1

/-- A frame that is no fragment carries the only piece there is. -/
theorem eq_whole (h : frame.IsPiece pieces) (hwhole : frame.isFragment = false) :
    frame = whole frame.kind frame.correlation pieces.flatten := by
  have hone : ¬ 1 < frame.fragments := of_decide_eq_false hwhole
  rw [UInt16.lt_iff_toNat_lt, UInt16.toNat_one] at hone
  have hlt := UInt16.lt_iff_toNat_lt.mp h.lt
  have hfragment : frame.fragment = 0 := UInt16.toNat_inj.mp (by
    rw [UInt16.toNat_zero]
    omega)
  have hfragments : frame.fragments = 1 := UInt16.toNat_inj.mp (by
    rw [UInt16.toNat_one]
    omega)
  have hlength : pieces.length = 1 := by rw [← h.count, hfragments, UInt16.toNat_one]
  rcases List.length_eq_one_iff.mp hlength with ⟨piece, rfl⟩
  have hpayload : piece = frame.payload := by
    have hpiece := h.piece
    rw [hfragment, UInt16.toNat_zero] at hpiece
    exact Option.some.inj hpiece
  rcases frame with ⟨kind, correlation, fragment, fragments, payload⟩
  simp only at hfragment hfragments hpayload
  rw [hfragment, hfragments, hpayload]
  simp only [whole, List.flatten_singleton]

end IsPiece

end Frame

end ChatHost
