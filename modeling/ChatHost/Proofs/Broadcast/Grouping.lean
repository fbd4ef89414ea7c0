import ChatHost.Proofs.Broadcast.FanOut
import Mathlib.Algebra.Ring.Nat

/-!
# Groups in Order

How the queue is grouped by channel.

The groups are made while they are searched: a message goes into the group of its channel if
there is one already, and otherwise opens a group behind all others. So what is known of the
groups is known of those of the messages so far, and each message more is one step
(`groupByChannel_concat`). What a group holds is known already (`grouped_groupByChannel`).
Here it is also that no message is in a group too many or too few, and that the groups stand
in the order in which their channels came up. A group that is extended keeps its place, and
so a channel keeps the place of its first message however many follow.

## Main definitions

* `Appearing`: Channels stand in the order in which they come up first.

## Theorems

* `addToGroup_perm`: One message more is in the groups.
* `Appearing.add`: One message more leaves the groups in order.
* `grouped_nonempty`: No group is empty.
* `groups_partition_messages`: What becomes of any messages.
-/

namespace ChatHost

section Holding

/-- One message more is in the groups, and the others are there as before. -/
theorem addToGroup_perm (m : Message) (groups : List (ChannelId × List Message)) :
    ((addToGroup m groups).flatMap Prod.snd).Perm (groups.flatMap Prod.snd ++ [m]) := by
  induction groups with
  | nil => exact List.Perm.refl [m]
  | cons entry rest ih =>
      rcases entry with ⟨channel, group⟩
      rw [addToGroup]
      split
      · rw [List.flatMap_cons, List.flatMap_cons, List.append_assoc, List.append_assoc]
        exact List.perm_append_comm.append_left group
      · rw [List.flatMap_cons, List.flatMap_cons, List.append_assoc]
        exact ih.append_left group

/-- No message is lost, and none is there twice. -/
theorem groupByChannel_perm (messages : List Message) :
    ((groupByChannel messages).flatMap Prod.snd).Perm messages := by
  induction messages using List.reverseRecOn with
  | nil => exact List.Perm.refl []
  | append_singleton messages m ih =>
      rw [groupByChannel_concat]
      exact (addToGroup_perm m _).trans (ih.append_right [m])

/-- There is no group without a message. -/
theorem grouped_nonempty {messages : List Message} {groups : List (ChannelId × List Message)}
    (h : Grouped messages groups) {entry : ChannelId × List Message} (hentry : entry ∈ groups) :
    entry.2 ≠ [] := by
  rcases (h.covers entry.1).mp (List.mem_map_of_mem hentry) with ⟨m, hm, hchannel⟩
  rw [h.group entry hentry]
  exact List.ne_nil_of_mem (List.mem_filter.mpr ⟨hm, decide_eq_true hchannel⟩)

end Holding

section Order

/-- Channels stand in the order in which they come up first in some messages. -/
def Appearing (messages : List Message) (channels : List ChannelId) : Prop :=
  channels.Pairwise fun c d =>
    (messages.map (·.channel)).idxOf c < (messages.map (·.channel)).idxOf d

/-- One message more leaves the groups in the order in which their channels came up. -/
theorem Appearing.add {messages : List Message} {groups : List (ChannelId × List Message)}
    (h : Appearing messages (groups.map Prod.fst)) (hgrouped : Grouped messages groups)
    (m : Message) : Appearing (messages ++ [m]) ((addToGroup m groups).map Prod.fst) := by
  have hcovers : ∀ channel,
      channel ∈ groups.map Prod.fst ↔ channel ∈ messages.map (·.channel) := fun channel => by
    rw [hgrouped.covers, List.mem_map]
  -- A channel that has come up does not come up earlier because of a later message.
  have hkept : Appearing (messages ++ [m]) (groups.map Prod.fst) := by
    refine h.imp_of_mem fun {c d} hc hd hlt => ?_
    rw [List.map_append, List.idxOf_append_of_mem ((hcovers c).mp hc),
      List.idxOf_append_of_mem ((hcovers d).mp hd)]
    exact hlt
  rw [keys_addToGroup]
  split
  · exact hkept
  · next hnew =>
    refine List.pairwise_append.mpr ⟨hkept, List.pairwise_singleton _ _, fun c hc d hd => ?_⟩
    rw [List.mem_singleton.mp hd, List.map_append, List.idxOf_append_of_mem ((hcovers c).mp hc),
      List.idxOf_append_of_notMem fun hold => hnew ((hcovers m.channel).mpr hold)]
    exact Nat.lt_add_right _ (List.idxOf_lt_length_iff.mpr ((hcovers c).mp hc))

theorem appearing_groupByChannel (messages : List Message) :
    Appearing messages ((groupByChannel messages).map Prod.fst) := by
  induction messages using List.reverseRecOn with
  | nil => exact List.Pairwise.nil
  | append_singleton messages m ih =>
      rw [groupByChannel_concat]
      exact ih.add (grouped_groupByChannel messages) m

end Order

/-- Any messages are grouped. No channel has two groups; the channels that have one are those
    of the messages, and stand in the order of their first messages. No group is empty, and
    each holds the messages of its channel, all of them and in their order. So the groups
    together hold each message once, and have as many as there are. -/
theorem groups_partition_messages (messages : List Message) :
    ((groupByChannel messages).map Prod.fst).Nodup ∧
    (∀ channel, channel ∈ (groupByChannel messages).map Prod.fst ↔
      ∃ m ∈ messages, m.channel = channel) ∧
    (((groupByChannel messages).map Prod.fst).Pairwise fun c d =>
      (messages.map (·.channel)).idxOf c < (messages.map (·.channel)).idxOf d) ∧
    (∀ entry ∈ groupByChannel messages, entry.2 ≠ [] ∧
      entry.2 = messages.filter fun m => decide (m.channel = entry.1)) ∧
    ((groupByChannel messages).flatMap Prod.snd).Perm messages ∧
    ((groupByChannel messages).map fun entry => entry.2.length).sum = messages.length := by
  have hgrouped := grouped_groupByChannel messages
  have hperm := groupByChannel_perm messages
  refine ⟨hgrouped.nodup, hgrouped.covers, appearing_groupByChannel messages,
    fun entry hentry => ⟨grouped_nonempty hgrouped hentry, hgrouped.group entry hentry⟩, hperm, ?_⟩
  rw [← hperm.length_eq, List.length_flatMap]

/-- A channel that comes up again has one group, with both messages. -/
theorem grouped_news_of_oneViewer :
    (1, [⟨1, 1, 1, .empty, "one"⟩, ⟨3, 1, 1, .empty, "three"⟩]) ∈ groupByChannel oneViewer.queue ∧
      [⟨1, 1, 1, .empty, "one"⟩, ⟨3, 1, 1, .empty, "three"⟩] =
        oneViewer.queue.filter fun m => decide (m.channel = 1) := by
  have hgroup : (1, [⟨1, 1, 1, .empty, "one"⟩, ⟨3, 1, 1, .empty, "three"⟩]) ∈
      groupByChannel oneViewer.queue := List.mem_cons_self
  exact ⟨hgroup, ((groups_partition_messages oneViewer.queue).2.2.2.1 _ hgroup).2⟩

end ChatHost
