import ChatHost.Link.Reassembly
import ChatHost.Proofs.Link.Splitting
import Mathlib.Data.List.Nodup

/-!
# Packets from Pieces

A reassembler makes up no packet and mixes none, whatever the network does.

The network may lose frames, deliver them twice, late and in any order. Of a
packet that waits only some pieces are there; it may be given up and begun anew
by a piece that comes late, and may be turned away. None of that matters to what
is handed out, because of what a slot can hold: the piece of that number of the
one packet that was sent under the key of the slot, or nothing
(`Partial.Holds`). Keys tell packets apart only if no two packets were sent with
the same peer, kind and correlation, and this is the assumption.

Whatever becomes of a frame is one of five things (`Reassembler.Fate`), and only
two of them keep a packet or hand one out.

## Main definitions

* `Delivery`: A frame that arrives.
* `Reassembler.run`: Takes in frames, one after the other.
* `Reassembler.Fate`: What can become of a frame.
* `Partial.Holds`: A packet that waits holds nothing but pieces, each in its slot.
* `Sending`: A packet that is sent.
* `Reassembler.Faithful`: Waiting packets hold pieces of packets that were sent.

## Theorems

* `Reassembler.accept_fate`: Nothing else can become of a frame.
* `Partial.Holds.put`: A piece goes into its slot.
* `Partial.Holds.payload_eq`: A packet without empty slots is what was sent.
* `Reassembler.Faithful.accept`: One frame keeps the invariant.
* `Reassembler.handed_out_was_sent`: What is handed out was sent, over all runs.
-/

namespace ChatHost

/-- A frame that arrives. -/
structure Delivery where
  peer : SocketAddress
  frame : Frame
  now : Instant

/-- The key of the packet that a frame belongs to. -/
def Delivery.key (d : Delivery) : PartialKey := ⟨d.peer, d.frame.kind, d.frame.correlation⟩

namespace Reassembler

/-- Takes in frames, one after the other, and says beside each what is handed out. -/
def run (r : Reassembler) : List Delivery → List (Delivery × Option Frame) × Reassembler
  | [] => ([], r)
  | d :: rest =>
    let (packet, r) := r.accept d.peer d.frame d.now
    let (later, r) := r.run rest
    ((d, packet) :: later, r)

/-- What can become of a frame: what is handed out, and the reassembler after it. -/
inductive Fate (r : Reassembler) (d : Delivery) : Option Frame × Reassembler → Prop
  /-- It is no fragment, and goes out as it is. -/
  | unsplit (hwhole : d.frame.isFragment = false) : Fate r d (some d.frame, r)
  /-- There is no piece of its number. -/
  | numberless (hfragment : d.frame.isFragment = true)
      (hnumber : d.frame.fragments ≤ d.frame.fragment) : Fate r d (none, r)
  /-- It would begin a packet, and too many wait. -/
  | refused (hfragment : d.frame.isFragment = true)
      (hnumber : d.frame.fragment < d.frame.fragments)
      (hnew : (r.expire d.now).find? d.key = none)
      (hfull : maxPartials ≤ (r.expire d.now).pending) : Fate r d (none, r.expire d.now)
  /-- It goes into a packet that is still not whole. -/
  | kept (hfragment : d.frame.isFragment = true)
      (hnumber : d.frame.fragment < d.frame.fragments)
      (hroom : (r.expire d.now).find? d.key = none → (r.expire d.now).pending < maxPartials)
      {part : Partial}
      (hpart : part = (target ((r.expire d.now).find? d.key) d.frame.fragments.toNat d.now).put
        d.frame.fragment.toNat d.frame.payload)
      (hwhole : part.isWhole = false) : Fate r d (none, (r.expire d.now).insert d.key part)
  /-- It is the last piece of a packet. -/
  | completed (hfragment : d.frame.isFragment = true)
      (hnumber : d.frame.fragment < d.frame.fragments)
      (hroom : (r.expire d.now).find? d.key = none → (r.expire d.now).pending < maxPartials)
      {part : Partial}
      (hpart : part = (target ((r.expire d.now).find? d.key) d.frame.fragments.toNat d.now).put
        d.frame.fragment.toNat d.frame.payload)
      (hwhole : part.isWhole = true) :
      Fate r d (some (.whole d.frame.kind d.frame.correlation part.payload),
        (r.expire d.now).erase d.key)

theorem accept_fate (r : Reassembler) (d : Delivery) :
    Fate r d (r.accept d.peer d.frame d.now) := by
  rw [accept]
  by_cases hfragment : d.frame.isFragment = true
  · rw [hfragment]
    by_cases hnumber : d.frame.fragments ≤ d.frame.fragment
    · rw [if_pos hnumber]
      exact .numberless hfragment hnumber
    · rw [if_neg hnumber]
      have hlt : d.frame.fragment < d.frame.fragments := UInt16.not_le.mp hnumber
      simp only [Bool.not_true, Bool.false_eq_true, if_false]
      split
      · next hrefused =>
        rw [Bool.and_eq_true, Option.isNone_iff_eq_none, decide_eq_true_eq] at hrefused
        exact .refused hfragment hlt hrefused.1 hrefused.2
      · next hroom =>
        rw [Bool.and_eq_true, Option.isNone_iff_eq_none, decide_eq_true_eq] at hroom
        have hroom' := fun hnew => Nat.not_le.mp fun hfull => hroom ⟨hnew, hfull⟩
        split
        · next hwhole => exact .completed hfragment hlt hroom' rfl hwhole
        · next hwhole => exact .kept hfragment hlt hroom' rfl (eq_false_of_ne_true hwhole)
  · rw [eq_false_of_ne_true hfragment]
    exact .unsplit (eq_false_of_ne_true hfragment)

variable {r : Reassembler} {key : PartialKey} {part : Partial}

theorem mem_of_find? (h : r.find? key = some part) : (key, part) ∈ r.partials := by
  rw [find?, Option.map_eq_some_iff] at h
  rcases h with ⟨⟨other, _⟩, hfind, rfl⟩
  have hsame := List.find?_some hfind
  have hkey : other = key := of_decide_eq_true hsame
  rw [← hkey]
  exact List.mem_of_find?_eq_some hfind

-- What is in a reassembler after an operation was there before, or is new.
theorem mem_of_mem_expire {entry : PartialKey × Partial} {now : Instant}
    (h : entry ∈ (r.expire now).partials) : entry ∈ r.partials :=
  List.mem_of_mem_filter h

theorem mem_of_mem_erase {entry : PartialKey × Partial} (h : entry ∈ (r.erase key).partials) :
    entry ∈ r.partials :=
  List.mem_of_mem_filter h

theorem mem_of_mem_insert {entry : PartialKey × Partial}
    (h : entry ∈ (r.insert key part).partials) : entry ∈ r.partials ∨ entry = (key, part) := by
  rcases List.mem_append.mp h with h | h
  · exact Or.inl (mem_of_mem_erase h)
  · exact Or.inr (List.mem_singleton.mp h)

end Reassembler

namespace Partial

/-- A packet that waits has a slot for every piece of some packet, with that piece in
    it or nothing, and counts those that are filled. -/
structure Holds (pieces : List Bytes) (part : Partial) : Prop where
  length : part.slots.length = pieces.length
  filled : ∀ (i : Nat) (piece : Bytes), part.slots[i]? = some (some piece) →
    pieces[i]? = some piece
  received : part.received = part.slots.countP Option.isSome

variable {pieces : List Bytes} {part : Partial}

-- The filled slots are counted right from the beginning, and no piece upsets the count.
theorem received_fresh (count : Nat) (now : Instant) :
    (fresh count now).received = (fresh count now).slots.countP Option.isSome := by
  rw [fresh, List.countP_replicate]
  rfl

theorem received_put (h : part.received = part.slots.countP Option.isSome) (index : Nat)
    (piece : Bytes) :
    (part.put index piece).received = (part.put index piece).slots.countP Option.isSome := by
  rw [put]
  split
  · next hempty =>
    rcases List.getElem?_eq_some_iff.mp hempty with ⟨hlt, hget⟩
    simp [List.countP_set, hlt, hget, h]
  · exact h

theorem length_put (part : Partial) (index : Nat) (piece : Bytes) :
    (part.put index piece).slots.length = part.slots.length := by
  rw [put]
  split
  · rw [List.length_set]
  · rfl

theorem fresh_holds (pieces : List Bytes) (now : Instant) :
    (fresh pieces.length now).Holds pieces := by
  refine ⟨List.length_replicate, ?_, received_fresh _ now⟩
  intro i piece hslot
  rw [fresh, List.getElem?_replicate] at hslot
  split at hslot <;> simp at hslot

namespace Holds

/-- A piece goes into its slot, and one that is there already changes nothing. -/
theorem put (h : part.Holds pieces) {index : Nat} {piece : Bytes}
    (hpiece : pieces[index]? = some piece) : (part.put index piece).Holds pieces := by
  refine ⟨(length_put part index piece).trans h.length, ?_, received_put h.received index piece⟩
  intro i other hslot
  rw [Partial.put] at hslot
  split at hslot
  · next hempty =>
    have hlt := (List.getElem?_eq_some_iff.mp hempty).1
    rw [List.getElem?_set] at hslot
    by_cases hi : index = i
    · rw [if_pos hi, if_pos hlt, Option.some.injEq, Option.some.injEq] at hslot
      rw [← hi, ← hslot]
      exact hpiece
    · rw [if_neg hi] at hslot
      exact h.filled i other hslot
  · exact h.filled i other hslot

-- Where all slots are filled, they hold all pieces.
theorem slots_eq (h : part.Holds pieces) (hwhole : part.isWhole = true) :
    part.slots = pieces.map some := by
  have hcount : part.received = part.slots.length := beq_iff_eq.mp hwhole
  rw [h.received, List.countP_eq_length] at hcount
  apply List.ext_getElem?
  intro i
  rcases hslot : part.slots[i]? with _ | slot
  · rw [List.getElem?_eq_none_iff, h.length] at hslot
    rw [List.getElem?_map, List.getElem?_eq_none_iff.mpr hslot]
    rfl
  · rcases Option.isSome_iff_exists.mp (hcount slot (List.mem_of_getElem? hslot)) with ⟨piece, rfl⟩
    rw [List.getElem?_map, h.filled i piece hslot]
    rfl

theorem payload_eq (h : part.Holds pieces) (hwhole : part.isWhole = true) :
    part.payload = pieces.flatten := by
  rw [payload, h.slots_eq hwhole, List.filterMap_map]
  exact congrArg List.flatten List.filterMap_some

end Holds

end Partial

/-- A packet that is sent. -/
structure Sending where
  peer : SocketAddress
  kind : FrameKind
  correlation : UInt32
  payload : Bytes

namespace Sending

/-- What the frames of a packet have in common. -/
def key (s : Sending) : PartialKey := ⟨s.peer, s.kind, s.correlation⟩

/-- The frames that a packet goes in, unless it is too large. -/
def frames (s : Sending) : Except LinkError (List Frame) :=
  Frame.split s.kind s.correlation s.payload

/-- The frame that a packet would go in if there were no bound on it. -/
def whole (s : Sending) : Frame := .whole s.kind s.correlation s.payload

/-- A frame of a packet arrives under the key of the packet. -/
theorem of_mem_frames {s : Sending} {frames : List Frame} (h : s.frames = .ok frames)
    {d : Delivery} (hframe : d.frame ∈ frames) (hpeer : s.peer = d.peer) :
    d.key = s.key ∧ d.frame.IsPiece (Frame.cut s.payload) := by
  rcases Frame.isPiece_of_split h hframe with ⟨hkind, hcorrelation, hpiece⟩
  refine ⟨?_, hpiece⟩
  rw [Delivery.key, key, hkind, hcorrelation, hpeer]

end Sending

namespace Reassembler

variable {r : Reassembler} {sent : List Sending}

/-- Every packet that waits holds pieces of one that was sent under its key. -/
def Faithful (sent : List Sending) (r : Reassembler) : Prop :=
  ∀ entry ∈ r.partials, ∃ s ∈ sent, s.key = entry.1 ∧ entry.2.Holds (Frame.cut s.payload)

namespace Faithful

theorem expire (h : r.Faithful sent) (now : Instant) : (r.expire now).Faithful sent :=
  fun entry hentry => h entry (mem_of_mem_expire hentry)

-- The packet that a piece goes into has a slot for each piece of its packet.
theorem target_holds (h : r.Faithful sent) (hkeys : (sent.map Sending.key).Nodup) {s : Sending}
    (hs : s ∈ sent) (now : Instant) :
    (target (r.find? s.key) (Frame.cut s.payload).length now).Holds (Frame.cut s.payload) := by
  rcases hold : r.find? s.key with _ | part
  · exact Partial.fresh_holds _ now
  · rcases h _ (mem_of_find? hold) with ⟨other, hother, hkey, hholds⟩
    obtain rfl := List.inj_on_of_nodup_map hkeys hother hs hkey
    simp only [target]
    rw [if_pos hholds.length]
    exact hholds

/-- A frame of a packet that was sent keeps the invariant, and if a packet is handed
    out for it, then it is that packet. -/
theorem accept (h : r.Faithful sent) (hkeys : (sent.map Sending.key).Nodup) {s : Sending}
    (hs : s ∈ sent) {d : Delivery} (hkey : d.key = s.key)
    (hpiece : d.frame.IsPiece (Frame.cut s.payload)) :
    (r.accept d.peer d.frame d.now).2.Faithful sent ∧
      ∀ packet, (r.accept d.peer d.frame d.now).1 = some packet → packet = s.whole := by
  have hkind : d.frame.kind = s.kind := congrArg PartialKey.kind hkey
  have hcorrelation : d.frame.correlation = s.correlation := congrArg PartialKey.correlation hkey
  have hexpire := h.expire d.now
  -- Wherever the piece goes, the packet there holds pieces of what was sent.
  have hput : ((target ((r.expire d.now).find? d.key) d.frame.fragments.toNat d.now).put
      d.frame.fragment.toNat d.frame.payload).Holds (Frame.cut s.payload) := by
    rw [hkey, hpiece.count]
    exact (hexpire.target_holds hkeys hs d.now).put hpiece.piece
  have hfate := accept_fate r d
  generalize r.accept d.peer d.frame d.now = outcome at hfate
  cases hfate with
  | unsplit hwhole =>
      refine ⟨h, fun packet hpacket => ?_⟩
      rw [← Option.some.inj hpacket, hpiece.eq_whole hwhole, Frame.cut_flatten, hkind, hcorrelation]
      rfl
  | numberless hfragment hnumber =>
      exact absurd hpiece.lt (UInt16.not_lt.mpr hnumber)
  | refused hfragment hnumber hnew hfull => exact ⟨hexpire, fun _ hpacket => by simp at hpacket⟩
  | kept hfragment hnumber hroom hpart hwhole =>
      refine ⟨fun entry hentry => ?_, fun _ hpacket => by simp at hpacket⟩
      rcases mem_of_mem_insert hentry with hentry | rfl
      · exact hexpire entry hentry
      · rw [← hpart] at hput
        exact ⟨s, hs, hkey.symm, hput⟩
  | completed hfragment hnumber hroom hpart hwhole =>
      refine ⟨fun entry hentry => hexpire entry (mem_of_mem_erase hentry), fun packet hpacket => ?_⟩
      rw [← hpart] at hput
      rw [← Option.some.inj hpacket, hput.payload_eq hwhole, Frame.cut_flatten, hkind, hcorrelation]
      rfl

/-- Over all runs: beside a frame of a packet that was sent, nothing is handed out but
    that packet. -/
theorem run (h : r.Faithful sent) (hkeys : (sent.map Sending.key).Nodup)
    {deliveries : List Delivery}
    (hfrom : ∀ d ∈ deliveries, ∃ s ∈ sent, d.key = s.key ∧ d.frame.IsPiece (Frame.cut s.payload))
    {d : Delivery} {packet : Frame} (hout : (d, some packet) ∈ (r.run deliveries).1) :
    ∃ s ∈ sent, d.key = s.key ∧ packet = s.whole := by
  induction deliveries generalizing r with
  | nil => exact absurd hout List.not_mem_nil
  | cons first rest ih =>
      rcases hfrom first List.mem_cons_self with ⟨s, hs, hkey, hpiece⟩
      rcases h.accept hkeys hs hkey hpiece with ⟨hnext, hpacket⟩
      rcases List.mem_cons.mp hout with hfirst | hlater
      · rcases Prod.mk.inj hfirst with ⟨rfl, hsome⟩
        exact ⟨s, hs, hkey, hpacket packet hsome.symm⟩
      · exact ih hnext (fun d hd => hfrom d (List.mem_cons_of_mem _ hd)) hlater

end Faithful

/-- The network may lose, repeat, delay and reorder the frames of any packets as it
    likes. If no two of the packets have the peer, the kind and the correlation in
    common, then whatever a reassembler hands out for a peer is the whole of a packet
    that was sent for that peer, kind and correlation included, in a frame that is not
    split. -/
theorem handed_out_was_sent (timeout : Nat) (sent : List Sending)
    (hkeys : (sent.map Sending.key).Nodup) (deliveries : List Delivery)
    (hfrom : ∀ d ∈ deliveries, ∃ s ∈ sent, s.peer = d.peer ∧
      ∃ frames, s.frames = .ok frames ∧ d.frame ∈ frames)
    (d : Delivery) (packet : Frame)
    (hout : (d, some packet) ∈ ((⟨timeout, []⟩ : Reassembler).run deliveries).1) :
    ∃ s ∈ sent, s.peer = d.peer ∧
      packet = .whole s.kind s.correlation s.payload ∧ packet.isFragment = false := by
  have hempty : (⟨timeout, []⟩ : Reassembler).Faithful sent :=
    fun _ hentry => absurd hentry List.not_mem_nil
  have hpieces : ∀ d ∈ deliveries,
      ∃ s ∈ sent, d.key = s.key ∧ d.frame.IsPiece (Frame.cut s.payload) := by
    intro d hd
    rcases hfrom d hd with ⟨s, hs, hpeer, frames, hframes, hframe⟩
    exact ⟨s, hs, Sending.of_mem_frames hframes hframe hpeer⟩
  rcases hempty.run hkeys hpieces hout with ⟨s, hs, hkey, rfl⟩
  exact ⟨s, hs, (congrArg PartialKey.peer hkey).symm, rfl, rfl⟩

end Reassembler

/-- As many bytes as one datagram carries. -/
def fullPiece : Bytes := List.replicate Frame.maxPayload 7

/-- An answer that is one byte too long for a datagram. -/
def longAnswer (port : UInt16) (byte : UInt8) : Sending :=
  ⟨⟨.v4 ⟨10, 0, 0, 2⟩, port, 0⟩, .response, 4, fullPiece ++ [byte]⟩

/-- Its pieces as they arrive. -/
def longFront (port : UInt16) (now : Instant) : Delivery :=
  ⟨⟨.v4 ⟨10, 0, 0, 2⟩, port, 0⟩, ⟨.response, 4, 0, 2, fullPiece⟩, now⟩

def longBack (port : UInt16) (byte : UInt8) (now : Instant) : Delivery :=
  ⟨⟨.v4 ⟨10, 0, 0, 2⟩, port, 0⟩, ⟨.response, 4, 1, 2, [byte]⟩, now⟩

theorem longAnswer_frames (port : UInt16) (byte : UInt8) (now : Instant) :
    (longAnswer port byte).frames =
      .ok [(longFront port now).frame, (longBack port byte now).frame] := by
  have hfull : fullPiece.length = Frame.maxPayload := List.length_replicate
  have hlength : (fullPiece ++ [byte]).length = Frame.maxPayload + 1 := by
    rw [List.length_append, hfull, List.length_singleton]
  have htwo : Frame.pieces (Frame.maxPayload + 1) = 2 := rfl
  have hcut : Frame.cut (fullPiece ++ [byte]) = [fullPiece, [byte]] := by
    rw [Frame.cut, hlength, if_neg (by decide), htwo, Frame.slices, List.take_left' hfull,
      List.drop_left' hfull]
    rfl
  rw [Sending.frames, Frame.split_eq, longAnswer, hlength, if_pos (by decide), hcut]
  rfl

/-- Two peers answer with the same number. -/
def twoAnswers : List Sending := [longAnswer 4001 1, longAnswer 4002 2]

/-- The pieces of one of the answers come in the wrong order, one of them twice, and
    one once more after the answer has gone out. -/
def mixedArrivals : List Delivery :=
  [longBack 4001 1 10, longBack 4002 2 10, longBack 4001 1 11, longFront 4001 12,
    longFront 4001 13]

theorem mixed_arrivals_kept_apart :
    (twoAnswers.map Sending.key).Nodup ∧
      (∀ d ∈ mixedArrivals, ∃ s ∈ twoAnswers, s.peer = d.peer ∧
        ∃ frames, s.frames = .ok frames ∧ d.frame ∈ frames) ∧
      (longFront 4001 12, some (.whole .response 4 (fullPiece ++ [1]))) ∈
        ((⟨5000, []⟩ : Reassembler).run mixedArrivals).1 := by
  have hkeys : (twoAnswers.map Sending.key).Nodup := by decide
  have hfirst : longAnswer 4001 1 ∈ twoAnswers := List.mem_cons_self
  have hsecond : longAnswer 4002 2 ∈ twoAnswers := List.mem_cons_of_mem _ List.mem_cons_self
  have hfront : ∀ now, (longFront 4001 now).frame ∈
      [(longFront 4001 now).frame, (longBack 4001 1 now).frame] := fun _ => List.mem_cons_self
  have hback : ∀ port byte now, (longBack port byte now).frame ∈
      [(longFront port now).frame, (longBack port byte now).frame] :=
    fun _ _ _ => List.mem_cons_of_mem _ List.mem_cons_self
  have hfrom : ∀ d ∈ mixedArrivals, ∃ s ∈ twoAnswers, s.peer = d.peer ∧
      ∃ frames, s.frames = .ok frames ∧ d.frame ∈ frames := by
    simp only [mixedArrivals, List.forall_mem_cons]
    refine ⟨?_, ?_, ?_, ?_, ?_, fun _ hd => absurd hd List.not_mem_nil⟩
    · exact ⟨_, hfirst, rfl, _, longAnswer_frames 4001 1 10, hback 4001 1 10⟩
    · exact ⟨_, hsecond, rfl, _, longAnswer_frames 4002 2 10, hback 4002 2 10⟩
    · exact ⟨_, hfirst, rfl, _, longAnswer_frames 4001 1 11, hback 4001 1 11⟩
    · exact ⟨_, hfirst, rfl, _, longAnswer_frames 4001 1 12, hfront 12⟩
    · exact ⟨_, hfirst, rfl, _, longAnswer_frames 4001 1 13, hfront 13⟩
  have hrun : ∃ packet, ((⟨5000, []⟩ : Reassembler).run mixedArrivals).1 =
      [(longBack 4001 1 10, none), (longBack 4002 2 10, none), (longBack 4001 1 11, none),
        (longFront 4001 12, some packet), (longFront 4001 13, none)] := ⟨_, rfl⟩
  rcases hrun with ⟨packet, hrun⟩
  have hout : (longFront 4001 12, some packet) ∈
      ((⟨5000, []⟩ : Reassembler).run mixedArrivals).1 := by
    rw [hrun]
    simp only [List.mem_cons, true_or, or_true]
  refine ⟨hkeys, hfrom, ?_⟩
  -- Only one of the answers went to that port, so it is this one that is handed out.
  rcases Reassembler.handed_out_was_sent 5000 twoAnswers hkeys mixedArrivals hfrom _ _ hout with
    ⟨s, hs, hpeer, rfl, -⟩
  rcases List.mem_pair.mp hs with rfl | rfl
  · exact hout
  · exact absurd hpeer (by decide)

end ChatHost
