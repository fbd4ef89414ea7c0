import ChatHost.Proofs.Broadcast.FanOut
import ChatHost.Proofs.Link.Splitting
import ChatHost.Proofs.Wire.RoundTrip
import Mathlib.Algebra.Order.BigOperators.Group.List
import Mathlib.Algebra.Order.Group.Nat
import Mathlib.Algebra.Ring.Nat

/-!
# What Is Said and What Is Pushed

Whether a message that could be sent to the host can also be sent to its viewers.

A packet is carried if it can be split at all, and that goes by its length alone
(`Frame.carried_iff`). The packet that says something has 13 bytes beside the text,
the one that pushes it alone has 45: the row of a message has an id, its sender and the
name of the sender, none of which the sender has to send. Both are held to the same
bound, so there are 32 lengths of a text that is carried in and never carried out.

Batches do not make it worse. One that holds several messages stays within a single
datagram (`fitting_of_mem_splitBatch`), so whether the pushes of a message are carried is a
matter of its own length.

## Main definitions

* `Frame.Carried`: A packet can be split.
* `pushSize`: The length of the push of a batch.

## Theorems

* `carried_say_iff`, `carried_push_iff`: Which texts are carried in, and out.
* `fitting_of_mem_splitBatch`: A batch fits into a datagram or is one message.
* `said_and_pushed`: What is pushed of all that is said.
* `longest_saying_not_pushed`: The longest text that can be said cannot be pushed.
-/

namespace ChatHost

/-- A packet can be sent, in as many frames as it needs. -/
def Frame.Carried (kind : FrameKind) (correlation : UInt32) (packet : Bytes) : Prop :=
  ∃ frames, Frame.split kind correlation packet = .ok frames

theorem Frame.carried_iff (kind : FrameKind) (correlation : UInt32) (packet : Bytes) :
    Carried kind correlation packet ↔ packet.length ≤ maxPacket := by
  rw [Carried, split_eq]
  split
  · next hlength => exact iff_of_true ⟨_, rfl⟩ hlength
  · next hlength => exact iff_of_false (fun ⟨_, hframes⟩ => nomatch hframes) hlength

section Lengths

-- The row of a message is as long as it is taken to be when batches are made.
theorem length_encode_row (row : MessageRow) :
    (Payload.encode row).length = MessageRow.size row.text := by
  simp only [Payload.encode, List.length_append, length_leBytes, length_textField,
    length_nameField, MessageRow.size]

-- So a packet of rows is as long as its rows and what is in front of them.
theorem length_rowsPacket (kind : RequestKind) (status : Status) (rows : List MessageRow) :
    (responsePacket kind status rows).length =
      pushOverhead + (rows.map fun row => MessageRow.size row.text).sum := by
  have hheader : (ResponseHeader.encode ⟨kind, status⟩).length = 8 := by
    simp only [ResponseHeader.encode, List.length_append, length_leBytes]
  have hlist : (Payload.encode rows).length =
      4 + (rows.map fun row => MessageRow.size row.text).sum := by
    have hrows : Payload.encode rows =
        leBytes 4 (wireCount rows.length) ++ rows.flatMap Payload.encode := rfl
    rw [hrows, List.length_append, length_leBytes, List.length_flatMap]
    exact congrArg (4 + List.sum ·) (List.map_congr_left fun row _ => length_encode_row row)
  rw [responsePacket, List.length_append, hheader, hlist, pushOverhead]
  omega

/-- The length of the push of a batch, counted as batches are made. -/
def pushSize (batch : List Message) : Nat :=
  pushOverhead + (batch.map fun message => MessageRow.size message.text).sum

theorem pushSize_append (batch : List Message) (message : Message) :
    pushSize (batch ++ [message]) = pushSize batch + MessageRow.size message.text := by
  rw [pushSize, List.map_append, List.sum_append, List.map_singleton, List.sum_singleton,
    ← Nat.add_assoc, ← pushSize]

theorem length_pushPacket (batch : List Message) : (pushPacket batch).length = pushSize batch := by
  rw [pushPacket, length_rowsPacket, List.map_map]
  rfl

/-- What is announced in a packet of rows can be announced if the packet is carried. -/
theorem fits_of_length_le {kind : RequestKind} {status : Status} {rows : List MessageRow}
    (h : (responsePacket kind status rows).length ≤ Frame.maxPacket) : Contents.Fits rows := by
  have hbound : Frame.maxPacket < UInt32.size - 1 := by decide
  rw [length_rowsPacket] at h
  have hsize : ∀ row ∈ rows, MessageRow.size row.text ≤ Frame.maxPacket := by
    intro row hrow
    have hrowsize := List.le_sum_of_mem (List.mem_map.mpr ⟨row, hrow, rfl⟩ :
      MessageRow.size row.text ∈ rows.map fun row => MessageRow.size row.text)
    omega
  have hcount : rows.length ≤ (rows.map fun row => MessageRow.size row.text).sum := by
    have hrows := List.length_le_sum_of_one_le (rows.map fun row => MessageRow.size row.text) <| by
      intro size hmem
      rcases List.mem_map.mp hmem with ⟨row, -, rfl⟩
      exact Nat.le_trans (by decide) (Nat.le_add_left Name.capacity _)
    rwa [List.length_map] at hrows
  refine ⟨fun n hn => ?_, fun s hs => ?_⟩
  · rcases List.mem_cons.mp hn with rfl | hn
    · omega
    · rcases List.mem_flatMap.mp hn with ⟨row, -, hnone⟩
      exact absurd hnone List.not_mem_nil
  · rcases List.mem_flatMap.mp hs with ⟨row, hrow, hs⟩
    have hrowsize := hsize row hrow
    rw [MessageRow.size] at hrowsize
    rcases List.mem_pair.mp hs with rfl | rfl
    · omega
    · exact Nat.lt_of_le_of_lt row.senderName.fits (by decide)

end Lengths

section Bounds

/-- The bytes beside the text in a packet that says something. -/
def sayOverhead : Nat := 13

/-- The bytes beside the text in a push of one message. -/
def loneOverhead : Nat := 45

theorem length_sayPacket (request : SayRequest) :
    (requestPacket .say request).length = request.text.utf8ByteSize + sayOverhead := by
  have hheader : (RequestHeader.encode ⟨.say⟩).length = 4 := rfl
  simp only [requestPacket, List.length_append, hheader, Payload.encode, length_leBytes,
    length_textField, sayOverhead]
  omega

theorem pushSize_singleton (message : Message) :
    pushSize [message] = message.text.utf8ByteSize + loneOverhead := by
  rw [pushSize, List.map_singleton, List.sum_singleton, pushOverhead, MessageRow.size,
    Name.capacity, loneOverhead]
  omega

-- It is the same in every packet of rows.
theorem length_lonePacket (kind : RequestKind) (status : Status) (message : Message) :
    (responsePacket kind status [message.row]).length =
      message.text.utf8ByteSize + loneOverhead := by
  rw [← pushSize_singleton, length_rowsPacket, pushSize, List.map_singleton, List.map_singleton]
  rfl

theorem carried_say_iff (correlation : UInt32) (request : SayRequest) :
    Frame.Carried .request correlation (requestPacket .say request) ↔
      request.text.utf8ByteSize + sayOverhead ≤ Frame.maxPacket := by
  rw [Frame.carried_iff, length_sayPacket]

theorem carried_push_iff (correlation : UInt32) (message : Message) :
    Frame.Carried .message correlation (pushPacket [message]) ↔
      message.text.utf8ByteSize + loneOverhead ≤ Frame.maxPacket := by
  rw [Frame.carried_iff, length_pushPacket, pushSize_singleton]

end Bounds

section Batches

/-- A batch fits into a datagram, or holds one message and cannot be made smaller. -/
def Fitting (limit : Nat) (batch : List Message) : Prop :=
  pushSize batch ≤ limit ∨ batch.length ≤ 1

-- The induction keeps that the batch that has been begun is fitting, and that its size is
-- the one that is carried along.
theorem fitting_of_mem_splitFrom {limit : Nat} {messages current : List Message}
    (hcurrent : Fitting limit current) {batch : List Message}
    (hbatch : batch ∈ splitFrom limit current (pushSize current) messages) :
    Fitting limit batch := by
  induction messages generalizing current with
  | nil =>
      rw [splitFrom] at hbatch
      split at hbatch
      · exact absurd hbatch List.not_mem_nil
      · exact List.mem_singleton.mp hbatch ▸ hcurrent
  | cons message rest ih =>
      simp only [splitFrom] at hbatch
      split at hbatch
      · next hfull =>
        have hbegun : pushOverhead + MessageRow.size message.text = pushSize [message] := by
          rw [pushSize, List.map_singleton, List.sum_singleton]
        rw [hbegun, List.mem_cons] at hbatch
        rcases hbatch with rfl | hbatch
        · exact hcurrent
        · exact ih (Or.inr (Nat.le_of_eq List.length_singleton)) hbatch
      · next hroom =>
        rw [← pushSize_append] at hbatch
        refine ih ?_ hbatch
        rw [Bool.and_eq_true, Bool.not_eq_true', decide_eq_true_eq, not_and_or, Nat.not_lt] at hroom
        rcases hroom with hempty | hfits
        · have hnil : current = [] := List.isEmpty_iff.mp (by simpa using hempty)
          exact .inr (by rw [hnil]; exact Nat.le_refl 1)
        · exact .inl (by rw [pushSize_append]; exact hfits)

/-- A batch fits into a datagram, unless it holds but one message. -/
theorem fitting_of_mem_splitBatch {limit : Nat} {messages batch : List Message}
    (hbatch : batch ∈ splitBatch limit messages) : Fitting limit batch := by
  have hnone : Fitting limit [] := .inr (Nat.zero_le 1)
  exact fitting_of_mem_splitFrom hnone hbatch

theorem pushSize_le_of_mem {batch : List Message} {message : Message} (h : message ∈ batch) :
    pushSize [message] ≤ pushSize batch := by
  have hsize : MessageRow.size message.text ≤
      (batch.map fun message => MessageRow.size message.text).sum :=
    List.le_sum_of_mem (List.mem_map.mpr ⟨message, h, rfl⟩)
  rw [pushSize, pushSize, List.map_singleton, List.sum_singleton]
  exact Nat.add_le_add_left hsize pushOverhead

-- A push is carried exactly if any one of its messages would be, pushed alone.
theorem carried_iff_of_mem_pushes {live : Live} {push : Push} (hpush : push ∈ live.pushes)
    {message : Message} (hmessage : message ∈ push.batch) (correlation : UInt32) :
    Frame.Carried .message correlation push.packet ↔
      Frame.Carried .message correlation (pushPacket [message]) := by
  rw [Live.pushes, List.mem_flatMap] at hpush
  rcases hpush with ⟨⟨channel, group⟩, -, hpush⟩
  rcases List.mem_map.mp hpush with ⟨batch, hbatch, rfl⟩
  rw [Push.packet, Frame.carried_iff, Frame.carried_iff, length_pushPacket, length_pushPacket]
  rcases fitting_of_mem_splitBatch hbatch with hfits | hsingle
  · have hbound : maxPushSize ≤ Frame.maxPacket := by decide
    have hlone := pushSize_le_of_mem hmessage
    exact iff_of_true (Nat.le_trans hfits hbound)
      (Nat.le_trans (Nat.le_trans hlone hfits) hbound)
  · have hlone : batch = [message] := by
      rcases List.length_eq_one_iff.mp
        (Nat.le_antisymm hsingle (List.length_pos_of_mem hmessage)) with ⟨only, rfl⟩
      rw [List.mem_singleton.mp hmessage]
    rw [hlone]

end Batches

section Longest

/-- What of all that can be said can be pushed, and in which way. A text is carried to the
    host if it leaves room for what is beside it in the packet that says it. It is carried
    to a viewer, alone or in whatever batch it stands, if it leaves room for what is beside
    it in a push of its own, and that is 32 bytes more. -/
theorem said_and_pushed (message : Message) (asked told : UInt32) :
    loneOverhead = sayOverhead + 32 ∧
    (Frame.Carried .request asked
        (requestPacket .say (SayRequest.mk message.channel message.text)) ↔
      message.text.utf8ByteSize ≤ Frame.maxPacket - sayOverhead) ∧
    (Frame.Carried .message told (pushPacket [message]) ↔
      message.text.utf8ByteSize ≤ Frame.maxPacket - loneOverhead) ∧
    ∀ live : Live, ∀ push ∈ live.pushes, message ∈ push.batch →
      (Frame.Carried .message told push.packet ↔
        message.text.utf8ByteSize ≤ Frame.maxPacket - loneOverhead) := by
  have halone : Frame.Carried .message told (pushPacket [message]) ↔
      message.text.utf8ByteSize ≤ Frame.maxPacket - loneOverhead := by
    rw [carried_push_iff]
    exact (Nat.le_sub_iff_add_le (by decide)).symm
  refine ⟨rfl, ?_, halone, fun live push hpush hmessage => ?_⟩
  · rw [carried_say_iff]
    exact (Nat.le_sub_iff_add_le (by decide)).symm
  · rw [carried_iff_of_mem_pushes hpush hmessage, halone]

/-- Two messages go in one push, and whether it is carried is settled by either. -/
theorem news_of_oneViewer_carried :
    ∃ push ∈ oneViewer.pushes, push.batch.length = 2 ∧ Frame.Carried .message 1 push.packet := by
  have hpushed := (said_and_pushed ⟨1, 1, 1, .empty, "one"⟩ 1 1).2.2.2 oneViewer
  refine ⟨⟨1, [⟨1, 1, 1, .empty, "one"⟩, ⟨3, 1, 1, .empty, "three"⟩], [⟨.loopback, 4000, 0⟩]⟩,
    List.mem_cons_self, rfl, ?_⟩
  exact (hpushed _ List.mem_cons_self List.mem_cons_self).mpr (by decide)

-- A text between the two bounds is carried in, and is too large to be carried out.
theorem carried_in_not_out {n : Nat} (hin : n + sayOverhead ≤ Frame.maxPacket)
    (hout : Frame.maxPacket < n + loneOverhead) (channel : ChannelId) (id : MessageId)
    (sender : UserId) (name : Name) (asked told : UInt32) :
    Frame.Carried .request asked (requestPacket .say (SayRequest.mk channel (letters n))) ∧
      Frame.split .message told (pushPacket [⟨id, channel, sender, name, letters n⟩]) =
        .error (.tooLarge (n + loneOverhead) Frame.maxPacket) := by
  have hsize : (letters n).utf8ByteSize = n := utf8ByteSize_letters n
  constructor
  · rw [carried_say_iff, hsize]
    exact hin
  · rw [Frame.split_eq, length_pushPacket, pushSize_singleton, hsize,
      if_neg (Nat.not_le.mpr hout)]

/-- The longest text that can be said cannot be pushed. -/
theorem longest_saying_not_pushed :
    Frame.Carried .request 1 (requestPacket .say (SayRequest.mk 1 (letters 16777203))) ∧
      Frame.split .message 1 (pushPacket [⟨1, 1, 1, .empty, letters 16777203⟩]) =
        .error (.tooLarge 16777248 16777216) :=
  carried_in_not_out (by decide) (by decide) 1 1 1 .empty 1 1

end Longest

end ChatHost
