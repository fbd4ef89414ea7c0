import ChatHost.Proofs.Broadcast.Carriage
import Mathlib.Data.List.Chain

/-!
# Batches as Large as They Can Be

How the messages of a channel are cut into pushes.

A batch is closed only when the next message does not fit, and that message opens the
next batch. So two batches in a row could not have been one, and it is this that keeps
the number of packets small (`closed_splitBatch`). That a batch is not too large, and
that no message is lost on the way, is known already (`fitting_of_mem_splitBatch`,
`flatten_splitBatch`).

The size of a batch is carried along while it is made, and is not taken from a packet.
Everything here is about the packets all the same, because the size that is carried along
is the length of the packet (`length_pushPacket`), for any texts and any limit. A limit
below what stands in front of the rows makes every message a batch of its own.

## Main definitions

* `Closed`: A batch has no room for the first message of another.

## Theorems

* `splitFrom_begun`: A batch that has been begun is the start of the first.
* `closed_splitBatch`: No batch has room for the first message of the next.
* `split_of_fitting`: A push of several messages goes in one frame.
* `splitBatch_exact`: What batches are made of any messages, and what is sent of them.
-/

namespace ChatHost

section Closing

variable {limit : Nat}

/-- With the first message of another batch, a batch would be too large. -/
def Closed (limit : Nat) (batch next : List Message) : Prop :=
  ∀ message ∈ next.head?, limit < pushSize (batch ++ [message])

/-- The batch that has been begun is the start of the first that comes of it. -/
theorem splitFrom_begun (limit : Nat) {current : List Message} (hbegun : current ≠ [])
    (size : Nat) (messages : List Message) :
    ∃ more later, splitFrom limit current size messages = (current ++ more) :: later := by
  induction messages generalizing current size with
  | nil =>
      rw [splitFrom, if_neg (by rwa [List.isEmpty_iff])]
      exact ⟨[], [], by rw [List.append_nil]⟩
  | cons message rest ih =>
      simp only [splitFrom]
      split
      · exact ⟨[], _, by rw [List.append_nil]⟩
      · have hlonger : current ++ [message] ≠ [] := by simp
        rcases ih hlonger (size + MessageRow.size message.text) with ⟨more, later, hsplit⟩
        exact ⟨message :: more, later, by rw [hsplit, List.append_assoc, List.singleton_append]⟩

-- The induction goes along the messages, with the size of the batch that has been begun.
theorem closed_splitFrom (current messages : List Message) :
    (splitFrom limit current (pushSize current) messages).IsChain (Closed limit) := by
  induction messages generalizing current with
  | nil =>
      rw [splitFrom]
      split
      · exact List.isChain_nil
      · exact List.isChain_singleton _
  | cons message rest ih =>
      simp only [splitFrom]
      split
      · next hfull =>
        have hbegun : pushOverhead + MessageRow.size message.text = pushSize [message] := by
          rw [pushSize, List.map_singleton, List.sum_singleton]
        rw [hbegun]
        have hlater := ih [message]
        rw [Bool.and_eq_true, decide_eq_true_eq, ← pushSize_append] at hfull
        -- The message that did not fit is the first of the next batch.
        rcases splitFrom_begun limit (List.cons_ne_nil message []) (pushSize [message])
          rest with ⟨more, later, hsplit⟩
        rw [hsplit] at hlater ⊢
        refine List.isChain_cons_cons.mpr ⟨fun first hfirst => ?_, hlater⟩
        rw [← Option.some.inj hfirst]
        exact hfull.2
      · rw [← pushSize_append]
        exact ih (current ++ [message])

/-- No batch has room for the first message of the next. -/
theorem closed_splitBatch (limit : Nat) (messages : List Message) :
    (splitBatch limit messages).IsChain (Closed limit) :=
  closed_splitFrom [] messages

end Closing

section Packets

-- A batch of several messages is within the limit.
theorem pushSize_le_of_several {limit : Nat} {messages batch : List Message}
    (hbatch : batch ∈ splitBatch limit messages) (hseveral : 2 ≤ batch.length) :
    pushSize batch ≤ limit :=
  (fitting_of_mem_splitBatch hbatch).resolve_right (Nat.not_le.mpr hseveral)

-- What fits into a datagram is not split.
theorem split_of_fitting {packet : Bytes} (hfits : packet.length ≤ maxPushSize)
    (kind : FrameKind) (correlation : UInt32) :
    Frame.split kind correlation packet = .ok [.whole kind correlation packet] :=
  if_pos hfits

theorem mem_splitBatch_of_mem_pushes {live : Live} {push : Push} (h : push ∈ live.pushes) :
    ∃ messages, push.batch ∈ splitBatch maxPushSize messages := by
  rcases List.mem_flatMap.mp h with ⟨⟨channel, group⟩, -, hpush⟩
  rcases List.mem_map.mp hpush with ⟨batch, hbatch, rfl⟩
  exact ⟨group, hbatch⟩

/-- What batches are made of any messages, whatever the limit: together they are the
    messages, and none is empty; the packet of each has the bytes of its rows and the 12 in
    front of them; that of several messages is within the limit; and with the first message
    of the next batch none would be. So a push of several messages is one frame that is not
    split. -/
theorem splitBatch_exact (limit : Nat) (messages : List Message) :
    (splitBatch limit messages).flatten = messages ∧
    [] ∉ splitBatch limit messages ∧
    (∀ batch ∈ splitBatch limit messages,
      (pushPacket batch).length =
        12 + (batch.map fun message => MessageRow.size message.text).sum) ∧
    (∀ batch ∈ splitBatch limit messages, 2 ≤ batch.length →
      (pushPacket batch).length ≤ limit) ∧
    ((splitBatch limit messages).IsChain fun batch next =>
      ∀ message ∈ next.head?, limit < (pushPacket (batch ++ [message])).length) ∧
    ∀ (live : Live), ∀ push ∈ live.pushes, 2 ≤ push.batch.length →
      ∀ (kind : FrameKind) (correlation : UInt32),
        Frame.split kind correlation push.packet = .ok [.whole kind correlation push.packet] ∧
          (Frame.whole kind correlation push.packet).isFragment = false := by
  refine ⟨flatten_splitBatch limit messages, nil_not_mem_splitFrom limit [] _ messages,
    fun batch _ => length_pushPacket batch, fun batch hbatch hseveral => ?_, ?_,
    fun live push hpush hseveral kind correlation => ⟨?_, rfl⟩⟩
  · rw [length_pushPacket]
    exact pushSize_le_of_several hbatch hseveral
  · refine (closed_splitBatch limit messages).imp fun batch next hclosed message hmessage => ?_
    rw [length_pushPacket]
    exact hclosed message hmessage
  · rcases mem_splitBatch_of_mem_pushes hpush with ⟨group, hbatch⟩
    refine split_of_fitting ?_ kind correlation
    rw [Push.packet, length_pushPacket]
    exact pushSize_le_of_several hbatch hseveral

/-- Two messages are queued for a viewer, and both are in the one frame that is sent. -/
theorem news_of_oneViewer_unsplit :
    ∃ push ∈ oneViewer.pushes, 2 ≤ push.batch.length ∧
      Frame.split .message 1 push.packet = .ok [.whole .message 1 push.packet] := by
  have hexact := (splitBatch_exact maxPushSize oneViewer.queue).2.2.2.2.2 oneViewer
  refine ⟨⟨1, [⟨1, 1, 1, .empty, "one"⟩, ⟨3, 1, 1, .empty, "three"⟩], [⟨.loopback, 4000, 0⟩]⟩,
    List.mem_cons_self, Nat.le_refl 2, ?_⟩
  exact (hexact _ List.mem_cons_self (Nat.le_refl 2) .message 1).1

end Packets

end ChatHost
