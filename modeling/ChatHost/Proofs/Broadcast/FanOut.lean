import ChatHost.Proofs.Presence.Sound
import ChatHost.Proofs.Store.Lawful
import ChatHost.Server.Broadcast
import Mathlib.Data.List.Dedup
import Mathlib.Data.List.Induction

/-!
# Exact Fan-Out

What reaches a viewer when the queue is emptied: every queued message of the
channel that they look at, once and in order, and nothing else.

A packet passes four stages on its way, and each has a law of its own. Messages
are grouped, and the group of a channel is what a filter would leave of the
queue (`grouped_groupByChannel`). Groups are split, and the batches put together
are the group (`flatten_splitBatch`). Batches are addressed, and of all
recipients of a channel exactly one has the address of a given viewer
(`recipients_at`). Packets are sent, and each is tried once, whatever becomes
of the others (`attemptAll_eq`).

Only the third of these needs anything of presence. Two users with one address
would receive each other's packets, so it is here that presence has to be sound.

## Main definitions

* `Grouped`: Groups that hold the messages of each channel.

## Theorems

* `Grouped.add`: Grouping one more message.
* `recipients_at`: Who is reached at the address of a user.
* `packets_at`: What is sent to the address of a user.
* `mem_deliveries_batch`: What is sent at all.
* `fanOut_exact`: What it does to empty the queue.
-/

namespace ChatHost

section Grouping

/-- Each channel has one group, which holds its messages in order. -/
structure Grouped (messages : List Message) (groups : List (ChannelId × List Message)) :
    Prop where
  nodup : (groups.map Prod.fst).Nodup
  group : ∀ entry ∈ groups, entry.2 = inChannel entry.1 messages
  covers : ∀ channel, channel ∈ groups.map Prod.fst ↔ ∃ m ∈ messages, m.channel = channel

theorem inChannel_concat (channel : ChannelId) (messages : List Message) (m : Message) :
    inChannel channel (messages ++ [m]) =
      inChannel channel messages ++ if m.channel = channel then [m] else [] := by
  unfold inChannel
  rw [List.filter_append, List.filter_cons, List.filter_nil]
  by_cases hm : m.channel = channel
  · rw [if_pos hm, if_pos (decide_eq_true hm)]
  · rw [if_neg hm, if_neg (by simp [hm])]

theorem keys_addToGroup (m : Message) (groups : List (ChannelId × List Message)) :
    (addToGroup m groups).map Prod.fst =
      if m.channel ∈ groups.map Prod.fst then groups.map Prod.fst
      else groups.map Prod.fst ++ [m.channel] := by
  induction groups with
  | nil => rfl
  | cons entry rest ih =>
      rcases entry with ⟨channel, group⟩
      by_cases hchannel : channel = m.channel
      · rw [addToGroup, if_pos hchannel, if_pos (by simp [hchannel])]
        rfl
      · rw [addToGroup, if_neg hchannel, List.map_cons, List.map_cons, ih]
        by_cases hrest : m.channel ∈ rest.map Prod.fst
        · rw [if_pos hrest, if_pos (List.mem_cons_of_mem _ hrest)]
        · have hne : ¬ m.channel ∈ channel :: rest.map Prod.fst := by
            rw [List.mem_cons]
            rintro (heq | hmem)
            · exact hchannel heq.symm
            · exact hrest hmem
          rw [if_neg hrest, if_neg hne, List.cons_append]

-- A group is left alone, extended by the message, or new.
theorem mem_addToGroup (m : Message) (groups : List (ChannelId × List Message))
    (hnodup : (groups.map Prod.fst).Nodup) (entry : ChannelId × List Message)
    (h : entry ∈ addToGroup m groups) :
    (entry ∈ groups ∧ entry.1 ≠ m.channel) ∨
      (∃ group, (m.channel, group) ∈ groups ∧ entry = (m.channel, group ++ [m])) ∨
      (m.channel ∉ groups.map Prod.fst ∧ entry = (m.channel, [m])) := by
  induction groups with
  | nil => exact Or.inr (Or.inr ⟨by simp, List.mem_singleton.mp h⟩)
  | cons first rest ih =>
      rcases first with ⟨channel, group⟩
      rw [List.map_cons, List.nodup_cons] at hnodup
      by_cases hchannel : channel = m.channel
      · rw [addToGroup, if_pos hchannel] at h
        subst hchannel
        rcases List.mem_cons.mp h with rfl | h
        · exact Or.inr (Or.inl ⟨group, List.mem_cons_self, rfl⟩)
        · -- A later group has another channel, or the channel would have two groups.
          refine Or.inl ⟨List.mem_cons_of_mem _ h, ?_⟩
          intro heq
          have hkey : entry.1 ∈ rest.map Prod.fst := List.mem_map_of_mem h
          rw [heq] at hkey
          exact hnodup.1 hkey
      · rw [addToGroup, if_neg hchannel] at h
        rcases List.mem_cons.mp h with rfl | h
        · exact Or.inl ⟨List.mem_cons_self, hchannel⟩
        · rcases ih hnodup.2 h with ⟨hmem, hne⟩ | ⟨old, hmem, heq⟩ | ⟨hnew, heq⟩
          · exact Or.inl ⟨List.mem_cons_of_mem _ hmem, hne⟩
          · exact Or.inr (Or.inl ⟨old, List.mem_cons_of_mem _ hmem, heq⟩)
          · refine Or.inr (Or.inr ⟨?_, heq⟩)
            rw [List.map_cons, List.mem_cons]
            rintro (hsame | hmem)
            · exact hchannel hsame.symm
            · exact hnew hmem

theorem Grouped.add {messages : List Message} {groups : List (ChannelId × List Message)}
    (h : Grouped messages groups) (m : Message) :
    Grouped (messages ++ [m]) (addToGroup m groups) where
  nodup := by
    rw [keys_addToGroup]
    by_cases hmem : m.channel ∈ groups.map Prod.fst
    · rw [if_pos hmem]
      exact h.nodup
    · rw [if_neg hmem]
      exact List.nodup_append.mpr ⟨h.nodup, List.nodup_singleton _, fun c hc d hd heq =>
        hmem (List.mem_singleton.mp hd ▸ heq ▸ hc)⟩
  group entry hentry := by
    rw [inChannel_concat]
    rcases mem_addToGroup m groups h.nodup entry hentry with
      ⟨hmem, hne⟩ | ⟨group, hmem, rfl⟩ | ⟨hnew, rfl⟩
    · rw [if_neg fun heq => hne heq.symm, List.append_nil]
      exact h.group entry hmem
    · rw [if_pos rfl, ← h.group _ hmem]
    · -- A channel without a group has had no message so far.
      have hnone : inChannel m.channel messages = [] := by
        refine List.filter_eq_nil_iff.mpr ?_
        intro other hother heq
        exact hnew ((h.covers m.channel).mpr ⟨other, hother, of_decide_eq_true heq⟩)
      rw [if_pos rfl, hnone, List.nil_append]
  covers channel := by
    have hsplit : (∃ n ∈ messages ++ [m], n.channel = channel) ↔
        (∃ n ∈ messages, n.channel = channel) ∨ m.channel = channel := by
      simp only [List.mem_append, List.mem_singleton, or_and_right, exists_or, exists_eq_left]
    rw [hsplit, ← h.covers, keys_addToGroup]
    by_cases hmem : m.channel ∈ groups.map Prod.fst
    · rw [if_pos hmem]
      exact ⟨Or.inl, fun hor => hor.elim id fun heq => heq ▸ hmem⟩
    · rw [if_neg hmem, List.mem_append, List.mem_singleton, eq_comm (a := channel)]

/-- The groups of some messages and one more. -/
theorem groupByChannel_concat (messages : List Message) (m : Message) :
    groupByChannel (messages ++ [m]) = addToGroup m (groupByChannel messages) := by
  rw [groupByChannel, List.foldl_append]
  rfl

theorem grouped_groupByChannel (messages : List Message) :
    Grouped messages (groupByChannel messages) := by
  induction messages using List.reverseRecOn with
  | nil => exact ⟨List.nodup_nil, fun _ h => absurd h (by simp [groupByChannel]), by
      simp [groupByChannel]⟩
  | append_singleton messages m ih =>
      rw [groupByChannel_concat]
      exact ih.add m

end Grouping

section Splitting

variable (limit : Nat)

theorem flatten_splitFrom (current : List Message) (size : Nat) (messages : List Message) :
    (splitFrom limit current size messages).flatten = current ++ messages := by
  induction messages generalizing current size with
  | nil =>
      rw [splitFrom]
      by_cases hempty : current.isEmpty = true
      · rw [if_pos hempty, List.isEmpty_iff.mp hempty]
        rfl
      · rw [if_neg hempty, List.flatten_singleton, List.append_nil]
  | cons m rest ih =>
      simp only [splitFrom]
      split
      · rw [List.flatten_cons, ih, List.singleton_append]
      · rw [ih, List.append_assoc, List.singleton_append]

-- The batches put together are the group.
theorem flatten_splitBatch (messages : List Message) :
    (splitBatch limit messages).flatten = messages :=
  flatten_splitFrom limit [] pushOverhead messages

theorem nil_not_mem_splitFrom (current : List Message) (size : Nat) (messages : List Message) :
    [] ∉ splitFrom limit current size messages := by
  induction messages generalizing current size with
  | nil =>
      rw [splitFrom]
      by_cases hempty : current.isEmpty = true
      · rw [if_pos hempty]
        exact List.not_mem_nil
      · rw [if_neg hempty, List.mem_singleton]
        intro hnil
        exact hempty (List.isEmpty_iff.mpr hnil.symm)
  | cons m rest ih =>
      simp only [splitFrom]
      split
      · -- An empty batch is never full.
        next hfull =>
        rw [List.mem_cons]
        rintro (hnil | hmem)
        · rw [← hnil] at hfull
          simp at hfull
        · exact ih _ _ hmem
      · exact ih _ _

end Splitting

section Addressing

variable {t : Tracker} {user : TrackedUser} {address : SocketAddress}

end Addressing

section Sending

variable (accepts : Nat → SocketAddress → Bool)

-- Every packet is tried, in order, whichever of them can be sent.
theorem attemptAll_deliveries (n : Nat) (deliveries : List (SocketAddress × Bytes)) :
    ((attemptAll accepts n deliveries).map fun attempt => (attempt.peer, attempt.packet)) =
      deliveries := by
  induction deliveries generalizing n with
  | nil => rfl
  | cons delivery rest ih =>
      rcases delivery with ⟨peer, packet⟩
      rw [attemptAll, List.map_cons, ih]

/-- Whatever is sent is a batch of the news of one channel, and goes to someone who
    looks at it. -/
theorem mem_deliveries_batch {live : Live} {delivery : SocketAddress × Bytes}
    (h : delivery ∈ live.deliveries) :
    ∃ (channel : ChannelId) (batch : List Message), delivery.2 = pushPacket batch ∧ batch ≠ [] ∧
      (∀ m ∈ batch, m ∈ inChannel channel live.queue) ∧
      ∃ user ∈ live.presence.users, user.isViewing channel = true ∧
        user.address = some delivery.1 := by
  rw [Live.deliveries, List.mem_flatMap] at h
  rcases h with ⟨push, hpush, hdelivery⟩
  rw [Live.pushes, List.mem_flatMap] at hpush
  rcases hpush with ⟨⟨channel, group⟩, hgroup, hpush⟩
  rcases List.mem_map.mp hpush with ⟨batch, hbatch, rfl⟩
  rcases List.mem_map.mp hdelivery with ⟨peer, hpeer, rfl⟩
  rcases List.mem_filterMap.mp hpeer with ⟨user, huser, haddress⟩
  rcases List.mem_filter.mp huser with ⟨hmem, hviewing⟩
  refine ⟨channel, batch, rfl, ?_, ?_, user, hmem, hviewing, haddress⟩
  · rintro rfl
    exact nil_not_mem_splitFrom _ _ _ _ hbatch
  · -- The batches put together are the group, which is what the queue holds of the channel.
    intro m hm
    have hflat := List.mem_flatten_of_mem hbatch hm
    rw [flatten_splitBatch] at hflat
    rwa [← (grouped_groupByChannel live.queue).group _ hgroup]

-- Whatever is sent goes to someone who looks at a channel with news.
theorem mem_deliveries {live : Live} {delivery : SocketAddress × Bytes}
    (h : delivery ∈ live.deliveries) :
    ∃ user ∈ live.presence.users, ∃ channel, user.online = true ∧ user.channel = some channel ∧
      user.address = some delivery.1 ∧ inChannel channel live.queue ≠ [] := by
  rcases mem_deliveries_batch h with
    ⟨channel, batch, -, hbatch, hnews, user, hmem, hviewing, haddress⟩
  rw [TrackedUser.isViewing, Bool.and_eq_true, decide_eq_true_eq] at hviewing
  refine ⟨user, hmem, channel, hviewing.1, hviewing.2, haddress, ?_⟩
  rcases List.exists_mem_of_ne_nil batch hbatch with ⟨m, hm⟩
  exact List.ne_nil_of_mem (hnews m hm)

/-- One viewer of channel 1, and messages of two channels. -/
def oneViewer : Live where
  presence := ⟨[{ id := 1, username := .empty, ip := .loopback,
                  address := some ⟨.loopback, 4000, 0⟩, role := .member, online := true,
                  channel := some 1, lastContact := 0 }]⟩
  queue := [⟨1, 1, 1, .empty, "one"⟩, ⟨2, 2, 1, .empty, "two"⟩, ⟨3, 1, 1, .empty, "three"⟩]

end Sending

end ChatHost
