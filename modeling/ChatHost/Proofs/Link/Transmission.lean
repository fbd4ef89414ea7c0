import ChatHost.Proofs.Link.Arrival

/-!
# From Packet to Packet

A packet is split, its frames travel as datagrams, and the same packet comes out.

Whether there are frames at all is a matter of the length of the packet. If there are,
each goes into a datagram that is taken in and is the same frame again when it is read
there; and a reassembler puts the frames together to the packet, in whatever order they
come and however often, as long as the last of them is the first of its number
(`Reassembler.run_restores`).

A packet that is not split is the exception in one respect. Its only frame is handed out
by itself, and so no time can be too long for it, not even where a reassembler gives up
everything at once (`Reassembler.accept_single`).

## Main definitions

* `Sending.Completes`: Frames of a packet come, the last missing one at the end.

## Theorems

* `Frame.split_eq_error_iff`: Which packets have no frames.
* `Frame.length_encode_le_maxDatagram`: Frames fit into datagrams that are taken in.
* `Reassembler.accept_single`: The frame of a packet that is not split.
* `Sending.there_and_back`: What becomes of a packet.
-/

namespace ChatHost

namespace Frame

variable {kind : FrameKind} {correlation : UInt32} {payload : Bytes} {frames : List Frame}

/-- A packet is refused exactly if it is longer than the longest there may be. -/
theorem split_eq_error_iff :
    split kind correlation payload = .error (.tooLarge payload.length maxPacket) ↔
      maxPacket < payload.length := by
  rw [split_eq]
  split
  · next hfits => exact iff_of_false (fun herror => nomatch herror) (Nat.not_lt.mpr hfits)
  · next hlong => exact iff_of_true rfl (Nat.not_le.mp hlong)

/-- No frame of a packet is longer than what is taken in. -/
theorem length_encode_le_maxDatagram (h : split kind correlation payload = .ok frames)
    {f : Frame} (hf : f ∈ frames) : f.encode.length ≤ maxDatagram :=
  Nat.le_trans (length_encode_le h hf) (by decide)

end Frame

/-- The frames of a packet come from its sender, in any order, and some of them more than
    once, but the last of them is not among those that came before; and none comes too
    long after the first. -/
structure Sending.Completes (s : Sending) (frames : List Frame) (timeout : Nat)
    (earlier : List Delivery) (last : Delivery) : Prop where
  peer : ∀ d ∈ earlier ++ [last], d.peer = s.peer
  frame : ∀ d ∈ earlier ++ [last], d.frame ∈ frames
  all : ∀ f ∈ frames, f ∈ (earlier ++ [last]).map (·.frame)
  new : last.frame ∉ earlier.map (·.frame)
  soon : ∀ first ∈ earlier.head?, ∀ d ∈ earlier ++ [last], d.now - first.now < timeout

namespace Reassembler

variable {r : Reassembler} {s : Sending} {frames : List Frame}

/-- The frame of a packet that has no other is handed out, and nothing changes. -/
theorem accept_single (hframes : s.frames = .ok frames) {d : Delivery} (hpeer : d.peer = s.peer)
    (hframe : d.frame ∈ frames) (hall : ∀ f ∈ frames, f = d.frame) :
    r.accept d.peer d.frame d.now = (some s.whole, r) := by
  rcases Sending.of_mem_frames hframes hframe hpeer.symm with ⟨hkey, hpiece⟩
  -- Frames are told apart by their numbers, and here there is only one.
  have honly : frames = [d.frame] :=
    List.perm_singleton.mp ((List.perm_ext_iff_of_nodup (Frame.nodup_of_split hframes)
      (List.nodup_singleton _)).mpr fun f =>
        ⟨fun hf => List.mem_singleton.mpr (hall f hf), fun hf => List.mem_singleton.mp hf ▸ hframe⟩)
  have hone : (Frame.cut s.payload).length = 1 := by
    have hnumbers := congrArg List.length (Frame.numbers_of_split hframes)
    rw [honly, List.length_map, List.length_singleton, List.length_range] at hnumbers
    exact hnumbers.symm
  have hkind : d.frame.kind = s.kind := congrArg PartialKey.kind hkey
  have hcorrelation : d.frame.correlation = s.correlation := congrArg PartialKey.correlation hkey
  rw [accept_only hpiece hone, Frame.cut_flatten, hkind, hcorrelation]
  rfl

end Reassembler

/-- A packet is refused as too large exactly if it has more than 512 * 32768 bytes. Otherwise
    it has frames. Each of them goes into a datagram that is taken in, and is what is read
    there. And a reassembler at which nothing waits under the key of the packet, and at
    which fewer than 256 packets wait that it does not give up when the first frame comes,
    hands out nothing until the last missing frame, and then the packet, in one frame that
    is not split; nothing waits under the key then. -/
theorem Sending.there_and_back (s : Sending) :
    (s.frames = .error (.tooLarge s.payload.length (512 * 32768)) ↔
      512 * 32768 < s.payload.length) ∧
    (s.payload.length ≤ 512 * 32768 → ∃ frames, s.frames = .ok frames ∧
      (∀ f ∈ frames, f.encode.length ≤ Frame.maxDatagram ∧ Frame.decode f.encode = .ok f) ∧
      ∀ (r : Reassembler) (earlier : List Delivery) (last : Delivery),
        s.Completes frames r.timeout earlier last →
        r.find? s.key = none →
        (∀ first ∈ (earlier ++ [last]).head?,
          (r.expire first.now).pending < Reassembler.maxPartials) →
        (r.run (earlier ++ [last])).1 =
            earlier.map (fun d => (d, none)) ++
              [(last, some (.whole s.kind s.correlation s.payload))] ∧
          (Frame.whole s.kind s.correlation s.payload).isFragment = false ∧
          (r.run (earlier ++ [last])).2.find? s.key = none) := by
  refine ⟨Frame.split_eq_error_iff, fun hlength => ?_⟩
  have hframes : ∃ frames, s.frames = .ok frames := by
    have hfits : s.payload.length ≤ Frame.maxPacket := hlength
    rw [Sending.frames, Frame.split_eq, if_pos hfits]
    exact ⟨_, rfl⟩
  rcases hframes with ⟨frames, hframes⟩
  refine ⟨frames, hframes, fun f hf => ⟨Frame.length_encode_le_maxDatagram hframes hf,
    Frame.decode_of_split hframes hf⟩, fun r earlier last h hvacant hroom => ?_⟩
  cases earlier with
  | nil =>
      have hall : ∀ f ∈ frames, f = last.frame := fun f hf => List.mem_singleton.mp (h.all f hf)
      rw [List.nil_append, Reassembler.run_cons,
        Reassembler.accept_single hframes (h.peer last List.mem_cons_self)
          (h.frame last List.mem_cons_self) hall]
      exact ⟨rfl, rfl, hvacant⟩
  | cons first rest =>
      have hall : ∀ f ∈ frames, f ∈ (first :: rest).map (·.frame) ∨ f = last.frame := by
        intro f hf
        have hcome := h.all f hf
        rwa [List.map_append, List.map_singleton, List.mem_append, List.mem_singleton] at hcome
      have hrun := Reassembler.run_restores hframes
        (fun d hd => ⟨h.peer d hd, h.frame d hd, h.soon first rfl d hd⟩) h.new hall rfl hvacant
        (hroom first rfl)
      exact ⟨hrun.1, rfl, hrun.2⟩

/-- A reassembler at which a packet of another peer waits. -/
def occupied : Reassembler := ⟨5000, [((longAnswer 4002 2).key, .fresh 2 0)]⟩

/-- The second piece of an answer comes twice before the first, and then the answer is
    handed out. -/
theorem answer_back_in_pieces :
    (occupied.run [longBack 4001 1 10, longBack 4001 1 11, longFront 4001 12]).1 =
      [(longBack 4001 1 10, none), (longBack 4001 1 11, none),
        (longFront 4001 12, some (.whole .response 4 (fullPiece ++ [1])))] := by
  have hlength : (longAnswer 4001 1).payload.length ≤ 512 * 32768 := by
    have hpayload : (longAnswer 4001 1).payload = fullPiece ++ [1] := rfl
    rw [hpayload, List.length_append, fullPiece, List.length_replicate]
    decide
  rcases (longAnswer 4001 1).there_and_back.2 hlength with ⟨frames, hframes, -, hrun⟩
  have hpieces := Except.ok.inj (hframes.symm.trans (longAnswer_frames 4001 1 10))
  have hfront : (longFront 4001 12).frame ∈ frames := hpieces ▸ List.mem_cons_self
  have hback : (longBack 4001 1 10).frame ∈ frames :=
    hpieces ▸ List.mem_cons_of_mem _ List.mem_cons_self
  refine (hrun occupied [longBack 4001 1 10, longBack 4001 1 11] (longFront 4001 12)
    ⟨?_, ?_, ?_, ?_, ?_⟩ rfl ?_).1
  · simp only [List.cons_append, List.nil_append, List.forall_mem_cons]
    exact ⟨rfl, rfl, rfl, fun _ hd => absurd hd List.not_mem_nil⟩
  · simp only [List.cons_append, List.nil_append, List.forall_mem_cons]
    exact ⟨hback, hback, hfront, fun _ hd => absurd hd List.not_mem_nil⟩
  · rw [hpieces, List.forall_mem_cons, List.forall_mem_singleton]
    exact ⟨List.mem_of_getElem? (i := 2) rfl, List.mem_cons_self⟩
  · intro hbefore
    rcases List.mem_map.mp hbefore with ⟨d, hd, hsame⟩
    have hnumber : d.frame.fragment = 0 := congrArg Frame.fragment hsame
    rcases List.mem_pair.mp hd with rfl | rfl
    · exact absurd hnumber (by decide)
    · exact absurd hnumber (by decide)
  · intro first hfirst
    rw [← Option.some.inj hfirst]
    simp only [List.cons_append, List.nil_append, List.forall_mem_cons]
    exact ⟨by decide, by decide, by decide, fun _ hd => absurd hd List.not_mem_nil⟩
  · intro first hfirst
    rw [← Option.some.inj hfirst]
    decide

end ChatHost
