import ChatHost.Link.Network
import ChatHost.Proofs.Link.Reassembly

/-!
# Packets that Arrive

A packet all of whose frames arrive in time is handed out.

That nothing else is handed out goes without any assumption about the network. That
something is handed out at all needs three: no packet under the same key waits, so
that the first frame finds empty slots; there is room for one more; and the frames
come soon enough after the first of them, so that what has come is not given up.
Their order makes no difference, and neither does a frame that comes twice, as long as
another is missing.

What is kept from one frame to the next is which slots are filled: exactly those of the
numbers that have come (`Partial.Gathered`). So the packet is whole with the last
number and not before.

## Main definitions

* `Partial.Filled`, `Partial.Gathered`: The slots of the numbers that have come.
* `Reassembler.Keeps`: A packet waits with the pieces that have come.
* `Frame.Restores`: Frames are put together again in whatever order they come.

## Theorems

* `Partial.Holds.isWhole_iff`: A packet is whole if every slot is filled.
* `Reassembler.accept_gathered`: What one more piece does.
* `Reassembler.Keeps.run_last`, `Reassembler.run_gathers`: What the rest of the pieces do,
  and all of them.
* `Reassembler.run_restores`: The last missing frame completes the packet.
* `Frame.restores_of_split`: The frames of a packet are put together to it.
* `Frame.decode_of_split`: Its datagrams carry its frames.
* `Network.sendAll_ok`: All frames go out if none is refused.
-/

namespace ChatHost

namespace Partial

/-- The piece of a number has come. -/
def Filled (part : Partial) (i : Nat) : Prop := ∃ piece, part.slots[i]? = some (some piece)

/-- A packet that has waited since some instant, with the pieces of the numbers that
    have come and no others. -/
structure Gathered (pieces : List Bytes) (start : Instant) (seen : List Nat)
    (part : Partial) : Prop where
  holds : part.Holds pieces
  started : part.started = start
  filled : ∀ i, part.Filled i ↔ i ∈ seen

variable {pieces : List Bytes} {part : Partial}

theorem fresh_gathered (pieces : List Bytes) (now : Instant) :
    (fresh pieces.length now).Gathered pieces now [] := by
  refine ⟨fresh_holds pieces now, rfl, fun i => iff_of_false ?_ List.not_mem_nil⟩
  rintro ⟨piece, hslot⟩
  rw [fresh, List.getElem?_replicate] at hslot
  split at hslot <;> simp at hslot

-- A piece fills its slot and no other.
theorem filled_put (part : Partial) {index : Nat} (hindex : index < part.slots.length)
    (piece : Bytes) (i : Nat) : (part.put index piece).Filled i ↔ i = index ∨ part.Filled i := by
  rw [put]
  split
  · next hempty =>
    by_cases hi : i = index
    · refine iff_of_true ⟨piece, ?_⟩ (Or.inl hi)
      rw [hi, List.getElem?_set_self hindex]
    · simp only [Filled, hi, false_or, List.getElem?_set_ne (Ne.symm hi)]
  · next hfull =>
    rw [or_iff_right_of_imp]
    rintro rfl
    rcases hslot : part.slots[i]? with _ | _ | there
    · exact absurd hindex (Nat.not_lt.mpr (List.getElem?_eq_none_iff.mp hslot))
    · exact absurd hslot hfull
    · exact ⟨there, hslot⟩

theorem started_put (part : Partial) (index : Nat) (piece : Bytes) :
    (part.put index piece).started = part.started := by
  rw [put]
  split <;> rfl

/-- A packet is whole if every slot is filled. -/
theorem Holds.isWhole_iff (h : part.Holds pieces) :
    part.isWhole = true ↔ ∀ i < pieces.length, part.Filled i := by
  rw [isWhole, beq_iff_eq, h.received, List.countP_eq_length]
  constructor
  · intro hall i hi
    rw [← h.length] at hi
    rcases Option.isSome_iff_exists.mp (hall _ (List.getElem_mem hi)) with ⟨piece, hpiece⟩
    exact ⟨piece, List.getElem?_eq_some_iff.mpr ⟨hi, hpiece⟩⟩
  · intro hall slot hslot
    rcases List.mem_iff_getElem.mp hslot with ⟨i, hi, rfl⟩
    rcases hall i (h.length ▸ hi) with ⟨piece, hpiece⟩
    rw [(List.getElem?_eq_some_iff.mp hpiece).2, Option.isSome_some]

namespace Gathered

variable {start : Instant} {seen : List Nat}

theorem put (h : part.Gathered pieces start seen) {index : Nat} {piece : Bytes}
    (hpiece : pieces[index]? = some piece) :
    (part.put index piece).Gathered pieces start (index :: seen) := by
  have hindex : index < part.slots.length :=
    h.holds.length ▸ (List.getElem?_eq_some_iff.mp hpiece).1
  refine ⟨h.holds.put hpiece, (started_put part index piece).trans h.started, fun i => ?_⟩
  rw [filled_put part hindex, List.mem_cons, h.filled]

theorem isWhole_iff (h : part.Gathered pieces start seen) :
    part.isWhole = true ↔ ∀ i < pieces.length, i ∈ seen := by
  rw [h.holds.isWhole_iff]
  exact forall₂_congr fun i _ => h.filled i

end Gathered

end Partial

namespace Reassembler

variable {r : Reassembler} {key : PartialKey} {part : Partial}

theorem find?_erase_self (r : Reassembler) (key : PartialKey) : (r.erase key).find? key = none := by
  rw [find?, Option.map_eq_none_iff, List.find?_eq_none]
  intro entry hentry hsame
  exact of_decide_eq_true (List.mem_filter.mp hentry).2 (of_decide_eq_true hsame)

theorem find?_insert_self (r : Reassembler) (key : PartialKey) (part : Partial) :
    (r.insert key part).find? key = some part := by
  have herased := find?_erase_self r key
  rw [find?, Option.map_eq_none_iff] at herased
  rw [find?, insert, List.find?_append, herased, Option.none_or, List.find?_singleton,
    if_pos (decide_eq_true rfl), Option.map_some]

theorem find?_expire_of_none (h : r.find? key = none) (now : Instant) :
    (r.expire now).find? key = none := by
  rw [find?, Option.map_eq_none_iff, List.find?_eq_none] at h ⊢
  exact fun entry hentry => h entry (mem_of_mem_expire hentry)

-- A packet that has not waited too long goes on waiting.
theorem find?_expire_of_some (h : r.find? key = some part) {now : Instant}
    (hfresh : part.isFresh r.timeout now = true) : (r.expire now).find? key = some part := by
  rw [find?, Option.map_eq_some_iff] at h ⊢
  rcases h with ⟨entry, hfind, rfl⟩
  refine ⟨entry, ?_, rfl⟩
  rw [expire, List.find?_filter]
  rw [List.find?_eq_some_iff_append] at hfind ⊢
  rcases hfind with ⟨hsame, before, later, hsplit, hbefore⟩
  refine ⟨?_, before, later, hsplit, fun other hother => ?_⟩
  · simp only [hfresh, hsame, decide_true, and_self]
  · have hother := hbefore other hother
    rw [Bool.not_eq_true'] at hother
    simp only [hother, Bool.false_eq_true, and_false, decide_false, Bool.not_false]

theorem run_cons (r : Reassembler) (d : Delivery) (rest : List Delivery) :
    r.run (d :: rest) =
      ((d, (r.accept d.peer d.frame d.now).1) :: ((r.accept d.peer d.frame d.now).2.run rest).1,
        ((r.accept d.peer d.frame d.now).2.run rest).2) := rfl

section Steps

variable {pieces : List Bytes} {start : Instant} {seen : List Nat} {d : Delivery}

/-- A packet waits under a key, with the pieces that have come since some instant. -/
def Keeps (r : Reassembler) (key : PartialKey) (pieces : List Bytes) (start : Instant)
    (seen : List Nat) : Prop :=
  ∃ part, r.find? key = some part ∧ part.Gathered pieces start seen

/-- One more piece goes to those that have come. It completes the packet if no other is
    missing, and then nothing waits under its key; otherwise the packet waits with it. -/
theorem accept_gathered (hsplit : 1 < pieces.length) (hpiece : d.frame.IsPiece pieces)
    (hgathered : (target ((r.expire d.now).find? d.key) pieces.length d.now).Gathered pieces
      start seen)
    (hroom : (r.expire d.now).find? d.key = none → (r.expire d.now).pending < maxPartials) :
    if ∀ i < pieces.length, i ∈ d.frame.fragment.toNat :: seen then
      (r.accept d.peer d.frame d.now).1 =
          some (.whole d.frame.kind d.frame.correlation pieces.flatten) ∧
        (r.accept d.peer d.frame d.now).2.find? d.key = none
    else
      (r.accept d.peer d.frame d.now).1 = none ∧
        (r.accept d.peer d.frame d.now).2.Keeps d.key pieces start
          (d.frame.fragment.toNat :: seen) ∧
        (r.accept d.peer d.frame d.now).2.timeout = r.timeout := by
  have hput := hgathered.put hpiece.piece
  rw [← hpiece.count] at hput hsplit
  have hfate := accept_fate r d
  generalize r.accept d.peer d.frame d.now = outcome at hfate
  cases hfate with
  | unsplit hwhole =>
      have hone : ¬ 1 < d.frame.fragments := of_decide_eq_false hwhole
      rw [UInt16.lt_iff_toNat_lt, UInt16.toNat_one] at hone
      exact absurd hsplit hone
  | numberless hfragment hnumber => exact absurd hpiece.lt (UInt16.not_lt.mpr hnumber)
  | refused hfragment hnumber hnew hfull => exact absurd (hroom hnew) (Nat.not_lt.mpr hfull)
  | kept hfragment hnumber hroom' hpart hwhole =>
      rw [← hpart] at hput
      rw [if_neg (fun hall => Bool.false_ne_true (hwhole ▸ hput.isWhole_iff.mpr hall))]
      exact ⟨rfl, ⟨_, find?_insert_self _ _ _, hput⟩, rfl⟩
  | completed hfragment hnumber hroom' hpart hwhole =>
      rw [← hpart] at hput
      rw [if_pos (hput.isWhole_iff.mp hwhole), hput.holds.payload_eq hwhole]
      exact ⟨rfl, find?_erase_self _ _⟩

-- A packet that waits takes one more piece.
theorem Keeps.target_gathered (h : r.Keeps key pieces start seen) {now : Instant}
    (htime : now - start < r.timeout) :
    (r.expire now).find? key ≠ none ∧
      (target ((r.expire now).find? key) pieces.length now).Gathered pieces start seen := by
  rcases h with ⟨part, hfind, hgathered⟩
  have hfresh : part.isFresh r.timeout now = true := by
    rw [Partial.isFresh, hgathered.started]
    exact decide_eq_true htime
  rw [find?_expire_of_some hfind hfresh]
  refine ⟨Option.some_ne_none _, ?_⟩
  simp only [target]
  rw [if_pos hgathered.holds.length]
  exact hgathered

/-- The rest of the pieces come, some of them more than once, but the last of them not
    before the end. Nothing is handed out until then. -/
theorem Keeps.run_last {last : Delivery} {earlier : List Delivery}
    (h : r.Keeps key pieces start seen) (hsplit : 1 < pieces.length)
    (hfrom : ∀ d ∈ earlier ++ [last], d.key = key ∧ d.frame.IsPiece pieces ∧
      d.now - start < r.timeout)
    (hnew : last.frame.fragment.toNat ∉ seen ++ earlier.map (·.frame.fragment.toNat))
    (hall : ∀ i < pieces.length, i ∈ seen ++ earlier.map (·.frame.fragment.toNat) ∨
      i = last.frame.fragment.toNat) :
    (r.run (earlier ++ [last])).1 = earlier.map (fun d => (d, none)) ++
        [(last, some (.whole key.kind key.correlation pieces.flatten))] ∧
      (r.run (earlier ++ [last])).2.find? key = none := by
  induction earlier generalizing r seen with
  | nil =>
      rcases hfrom last List.mem_cons_self with ⟨rfl, hpiece, htime⟩
      rcases h.target_gathered htime with ⟨hthere, hgathered⟩
      have hstep := accept_gathered hsplit hpiece hgathered fun hnone => absurd hnone hthere
      rw [if_pos] at hstep
      · rw [List.nil_append, run_cons, hstep.1]
        exact ⟨rfl, hstep.2⟩
      · intro i hi
        rw [List.map_nil, List.append_nil] at hall
        exact List.mem_cons.mpr (hall i hi).symm
  | cons d rest ih =>
      rcases hfrom d List.mem_cons_self with ⟨rfl, hpiece, htime⟩
      rcases h.target_gathered htime with ⟨hthere, hgathered⟩
      have hstep := accept_gathered hsplit hpiece hgathered fun hnone => absurd hnone hthere
      have hlast := hfrom last (List.mem_append_right _ List.mem_cons_self)
      have hbound : last.frame.fragment.toNat < pieces.length :=
        (List.getElem?_eq_some_iff.mp hlast.2.1.piece).1
      simp only [List.map_cons, List.mem_append, List.mem_cons, not_or] at hnew hall
      -- The last piece is missing still.
      rw [if_neg] at hstep
      · rcases hstep with ⟨hnone, hkept, htimeout⟩
        have hrest := ih hkept
          (fun e he => htimeout ▸ hfrom e (List.mem_cons_of_mem _ he))
          (by
            simp only [List.cons_append, List.mem_cons, List.mem_append, not_or]
            exact ⟨hnew.2.1, hnew.1, hnew.2.2⟩)
          (by
            intro i hi
            simp only [List.cons_append, List.mem_cons, List.mem_append]
            have hi' := hall i hi
            tauto)
        rw [List.cons_append, run_cons, hnone, hrest.1]
        exact ⟨rfl, hrest.2⟩
      · intro hwhole
        rcases List.mem_cons.mp (hwhole _ hbound) with hsame | hseen
        · exact hnew.2.1 hsame
        · exact hnew.1 hseen

/-- The pieces of a packet come where nothing has waited under its key and there is room, none
    too late after the first, and the last of them not before the end. -/
theorem run_gathers {first last : Delivery} {rest : List Delivery}
    (hsplit : 1 < pieces.length)
    (hfrom : ∀ d ∈ first :: (rest ++ [last]), d.key = key ∧ d.frame.IsPiece pieces ∧
      d.now - first.now < r.timeout)
    (hnew : last.frame.fragment.toNat ∉ (first :: rest).map (·.frame.fragment.toNat))
    (hall : ∀ i < pieces.length, i ∈ (first :: rest).map (·.frame.fragment.toNat) ∨
      i = last.frame.fragment.toNat)
    (hvacant : r.find? key = none) (hroom : (r.expire first.now).pending < maxPartials) :
    (r.run (first :: (rest ++ [last]))).1 = (first :: rest).map (fun d => (d, none)) ++
        [(last, some (.whole key.kind key.correlation pieces.flatten))] ∧
      (r.run (first :: (rest ++ [last]))).2.find? key = none := by
  rcases hfrom first List.mem_cons_self with ⟨rfl, hpiece, -⟩
  have hlast := hfrom last (List.mem_cons_of_mem _ (List.mem_append_right _ List.mem_cons_self))
  have hbound := (List.getElem?_eq_some_iff.mp hlast.2.1.piece).1
  have hfresh : (target ((r.expire first.now).find? first.key) pieces.length
      first.now).Gathered pieces first.now [] := by
    rw [find?_expire_of_none hvacant first.now]
    exact Partial.fresh_gathered _ _
  have hstep := accept_gathered hsplit hpiece hfresh fun _ => hroom
  -- The last piece is missing after the first.
  rw [if_neg] at hstep
  · rcases hstep with ⟨hsilent, hkept, htimeout⟩
    have hrest := hkept.run_last hsplit
      (fun d hd => htimeout ▸ hfrom d (List.mem_cons_of_mem _ hd)) hnew hall
    rw [run_cons, hsilent, hrest.1]
    exact ⟨rfl, hrest.2⟩
  · intro hwhole
    rw [List.map_cons, List.mem_cons, not_or] at hnew
    exact hnew.1 (List.mem_singleton.mp (hwhole _ hbound))

end Steps

-- A packet in one piece is handed out at once, and leaves no trace.
theorem accept_only {pieces : List Bytes} {d : Delivery} (hpiece : d.frame.IsPiece pieces)
    (hone : pieces.length = 1) :
    r.accept d.peer d.frame d.now =
      (some (.whole d.frame.kind d.frame.correlation pieces.flatten), r) := by
  have hunsplit : d.frame.isFragment = false := by
    refine decide_eq_false ?_
    rw [UInt16.lt_iff_toNat_lt, hpiece.count, hone, UInt16.toNat_one]
    exact Nat.lt_irrefl 1
  rw [accept, hunsplit, ← hpiece.eq_whole hunsplit]
  rfl

end Reassembler

namespace Frame

variable {kind : FrameKind} {correlation : UInt32} {payload : Bytes} {frames : List Frame}

/-- The frames of a packet have the numbers of its pieces, in order. -/
theorem numbers_of_split (h : split kind correlation payload = .ok frames) :
    frames.map (·.fragment.toNat) = List.range (cut payload).length := by
  rw [split_eq] at h
  split at h
  · next hlength =>
    have hcount := length_cut_le hlength
    have hsize : maxFragments < UInt16.size := by decide
    rw [← Except.ok.inj h]
    apply List.ext_getElem
    · rw [List.length_map, List.length_mapIdx, List.length_range]
    · intro i hi hi'
      rw [List.length_range] at hi'
      rw [List.getElem_map, List.getElem_mapIdx, List.getElem_range]
      exact UInt16.toNat_ofNat_of_lt (by omega)
  · simp at h

-- A frame of a packet is known by its number.
theorem eq_of_number_eq (h : split kind correlation payload = .ok frames) {f g : Frame}
    (hf : f ∈ frames) (hg : g ∈ frames) (hnumber : f.fragment.toNat = g.fragment.toNat) :
    f = g := by
  have hnodup : (frames.map (·.fragment.toNat)).Nodup := numbers_of_split h ▸ List.nodup_range
  exact List.inj_on_of_nodup_map hnodup hf hg hnumber

theorem nodup_of_split (h : split kind correlation payload = .ok frames) : frames.Nodup :=
  List.Nodup.of_map _ (numbers_of_split h ▸ List.nodup_range)

-- No piece is longer than what a datagram carries.
theorem length_le_of_mem_slices {size count : Nat} {bs piece : Bytes}
    (h : piece ∈ slices size count bs) : piece.length ≤ size := by
  induction count generalizing bs with
  | zero => exact absurd h List.not_mem_nil
  | succ count ih =>
      rw [slices, List.mem_cons] at h
      rcases h with rfl | h
      · exact List.length_take_le _ _
      · exact ih h

theorem length_le_of_mem_cut {piece : Bytes} (h : piece ∈ cut payload) :
    piece.length ≤ maxPayload := by
  rw [cut] at h
  split at h
  · next hfits => exact List.mem_singleton.mp h ▸ hfits
  · exact length_le_of_mem_slices h

theorem length_encode (frame : Frame) :
    frame.encode.length = headerSize + frame.payload.length := by
  simp only [encode, List.length_append, List.length_cons, length_leBytes, headerSize]

/-- A frame of a packet has no more bytes than its header and a full piece. -/
theorem length_encode_le (h : split kind correlation payload = .ok frames) {f : Frame}
    (hf : f ∈ frames) : f.encode.length ≤ headerSize + maxPayload := by
  have hpiece := List.mem_of_getElem? (isPiece_of_split h hf).2.2.piece
  rw [length_encode]
  exact Nat.add_le_add_left (length_le_of_mem_cut hpiece) headerSize

/-- A frame that has a piece which there can be is read from its datagram. -/
theorem decode_encode {frame : Frame} (hvalid : validFragment frame.fragment frame.fragments) :
    decode frame.encode = .ok frame := by
  have hcorrelation := leValue_leBytes 4 frame.correlation.toNat frame.correlation.toNat_lt
  have hfragment := leValue_leBytes 2 frame.fragment.toNat frame.fragment.toNat_lt
  have hfragments := leValue_leBytes 2 frame.fragments.toNat frame.fragments.toNat_lt
  simp only [leBytes] at hcorrelation hfragment hfragments
  simp only [encode, leBytes, List.cons_append, List.nil_append, decode, FrameKind.ofCode?_code,
    hcorrelation, hfragment, hfragments, UInt32.ofNat_toNat, UInt16.ofNat_toNat, hvalid, if_true]

/-- The datagrams of a packet carry its frames. -/
theorem decode_of_split (h : split kind correlation payload = .ok frames) {f : Frame}
    (hf : f ∈ frames) : decode f.encode = .ok f := by
  have hpiece := (isPiece_of_split h hf).2.2
  have hlength : payload.length ≤ maxPacket := by
    by_contra hlarge
    rw [split_eq, if_neg hlarge] at h
    simp at h
  have hcount := length_cut_le hlength
  have hlt := hpiece.lt
  have hne : f.fragments ≠ 0 := by
    rintro hzero
    rw [hzero] at hlt
    exact absurd hlt (UInt16.not_lt_zero)
  refine decode_encode ?_
  rw [validFragment, Bool.and_eq_true, Bool.and_eq_true, bne_iff_ne, decide_eq_true_eq,
    decide_eq_true_eq, hpiece.count]
  exact ⟨⟨hne, hlt⟩, hcount⟩

end Frame

namespace Reassembler

variable {r : Reassembler}

/-- All frames of a packet come, some of them more than once, but the last of them not
    before the end; nothing has waited under their key, there is room, and no frame comes
    too late after the first. Then nothing is handed out until the end, and then the
    packet, and nothing waits under its key. -/
theorem run_restores {s : Sending} {frames : List Frame} (hframes : s.frames = .ok frames)
    {earlier : List Delivery} {last : Delivery} {start : Instant}
    (hfrom : ∀ d ∈ earlier ++ [last], d.peer = s.peer ∧ d.frame ∈ frames ∧
      d.now - start < r.timeout)
    (hnew : last.frame ∉ earlier.map (·.frame))
    (hall : ∀ f ∈ frames, f ∈ earlier.map (·.frame) ∨ f = last.frame)
    (hstart : (earlier ++ [last]).head?.map (·.now) = some start)
    (hvacant : r.find? s.key = none) (hroom : (r.expire start).pending < maxPartials) :
    (r.run (earlier ++ [last])).1 = earlier.map (fun d => (d, none)) ++ [(last, some s.whole)] ∧
      (r.run (earlier ++ [last])).2.find? s.key = none := by
  have hpieces : ∀ d ∈ earlier ++ [last], d.key = s.key ∧ d.frame.IsPiece (Frame.cut s.payload) :=
    fun d hd => Sending.of_mem_frames hframes (hfrom d hd).2.1 (hfrom d hd).1.symm
  -- The same about the numbers of the frames.
  have hnumber : ∀ d ∈ earlier, last.frame.fragment.toNat ≠ d.frame.fragment.toNat := by
    intro d hd hsame
    refine hnew (List.mem_map.mpr ⟨d, hd, ?_⟩)
    exact Frame.eq_of_number_eq hframes (hfrom d (List.mem_append_left _ hd)).2.1
      (hfrom last (List.mem_append_right _ List.mem_cons_self)).2.1 hsame.symm
  have hnumbers : ∀ i < (Frame.cut s.payload).length,
      i ∈ earlier.map (·.frame.fragment.toNat) ∨ i = last.frame.fragment.toNat := by
    intro i hi
    rw [← List.mem_range, ← Frame.numbers_of_split hframes, List.mem_map] at hi
    rcases hi with ⟨f, hf, rfl⟩
    rcases hall f hf with hmem | rfl
    · rcases List.mem_map.mp hmem with ⟨d, hd, rfl⟩
      exact Or.inl (List.mem_map.mpr ⟨d, hd, rfl⟩)
    · exact Or.inr rfl
  have hwhole : Frame.whole s.key.kind s.key.correlation (Frame.cut s.payload).flatten = s.whole :=
    congrArg _ (Frame.cut_flatten s.payload)
  rcases hpieces last (List.mem_append_right _ List.mem_cons_self) with ⟨hkey, hpiece⟩
  cases earlier with
  | nil =>
      -- One frame has all numbers, so it is the only piece.
      have hbound := (List.getElem?_eq_some_iff.mp hpiece.piece).1
      have hone : (Frame.cut s.payload).length = 1 := by
        by_contra hmany
        have hzero := (hnumbers 0 (by omega)).resolve_left List.not_mem_nil
        have hfirst := (hnumbers 1 (by omega)).resolve_left List.not_mem_nil
        omega
      rw [← hkey] at hwhole
      rw [List.nil_append, run_cons, accept_only hpiece hone, ← hwhole]
      exact ⟨rfl, hvacant⟩
  | cons first rest =>
      rw [List.cons_append, List.head?_cons, Option.map_some, Option.some.injEq] at hstart
      subst hstart
      -- Two frames have different numbers, so there are two pieces.
      have hsplit : 1 < (Frame.cut s.payload).length := by
        have hfirst := (hpieces first List.mem_cons_self).2
        have hbound := (List.getElem?_eq_some_iff.mp hpiece.piece).1
        have hbound' := (List.getElem?_eq_some_iff.mp hfirst.piece).1
        have hother := hnumber first List.mem_cons_self
        omega
      have hmissing : last.frame.fragment.toNat ∉
          (first :: rest).map (·.frame.fragment.toNat) := by
        intro hmem
        rcases List.mem_map.mp hmem with ⟨d, hd, hsame⟩
        exact hnumber d hd hsame.symm
      have hgathers := run_gathers hsplit
        (fun d hd => ⟨(hpieces d hd).1, (hpieces d hd).2, (hfrom d hd).2.2⟩)
        hmissing hnumbers hvacant hroom
      rwa [hwhole] at hgathers

end Reassembler

/-- Frames that come from some address are put together to one packet and nothing else,
    in whatever order they come, by a reassembler at which nothing waits under their key
    and which has room for one more packet, if none of them comes too late. -/
def Frame.Restores (source : SocketAddress) (frames : List Frame) (packet : Frame) : Prop :=
  ∀ (r : Reassembler) (arrivals : List Delivery) (start : Instant),
    (arrivals.map (·.frame)).Perm frames →
    (∀ d ∈ arrivals, d.peer = source ∧ d.now - start < r.timeout) →
    arrivals.head?.map (·.now) = some start →
    r.find? ⟨source, packet.kind, packet.correlation⟩ = none →
    (r.expire start).pending < Reassembler.maxPartials →
    (r.run arrivals).1.filterMap Prod.snd = [packet]

/-- The frames of a packet are put together to the packet. -/
theorem Frame.restores_of_split {kind : FrameKind} {correlation : UInt32} {payload : Bytes}
    {frames : List Frame} (h : split kind correlation payload = .ok frames)
    (source : SocketAddress) : Restores source frames (whole kind correlation payload) := by
  intro r arrivals start horder hfrom hstart hvacant hroom
  have hmem : ∀ d ∈ arrivals, d.frame ∈ frames := fun d hd =>
    horder.subset (List.mem_map.mpr ⟨d, hd, rfl⟩)
  -- Some frame is the last, and since no frame comes twice, it is new then.
  rcases List.eq_nil_or_concat' arrivals with rfl | ⟨earlier, last, rfl⟩
  · simp at hstart
  · have hnodup := (horder.nodup_iff).mpr (nodup_of_split h)
    rw [List.map_append, List.map_singleton] at hnodup
    have hrun := Reassembler.run_restores (s := ⟨source, kind, correlation, payload⟩) h
      (fun d hd => ⟨(hfrom d hd).1, hmem d hd, (hfrom d hd).2⟩)
      (fun hlast => List.disjoint_of_nodup_append hnodup hlast List.mem_cons_self)
      (fun f hf => by
        have hcome := horder.symm.subset hf
        rwa [List.map_append, List.map_singleton, List.mem_append, List.mem_singleton] at hcome)
      hstart hvacant hroom
    rw [hrun.1, List.filterMap_append, List.filterMap_map]
    have hsilent : earlier.filterMap (Prod.snd ∘ fun d : Delivery => (d, none)) =
        ([] : List Frame) := List.filterMap_eq_nil_iff.mpr fun _ _ => rfl
    rw [hsilent]
    rfl

/-- All frames go out if the network refuses none of them. -/
theorem Network.sendAll_ok {network : Network} {source target : SocketAddress}
    {frames : List Frame}
    (h : ∀ frame ∈ frames, network.refusal ⟨source, target, frame.encode⟩ = none) :
    network.sendAll source target frames =
      (.ok (), frames.map fun frame => ⟨source, target, frame.encode⟩) := by
  induction frames with
  | nil => rfl
  | cons frame rest ih =>
      have hrest := ih fun other hother => h other (List.mem_cons_of_mem _ hother)
      simp only [sendAll, send, h frame List.mem_cons_self, hrest, List.map_cons]

end ChatHost
