import ChatHost.Link.Endpoint
import Mathlib.Data.List.Nodup

/-!
# Waiting for Answers

Who ends the waiting of a request, and with what.

A request is known by two numbers. Its ticket is its own: tickets ascend, and no
two requests of an endpoint ever have the same (`Tidy`). Its correlation is what
goes over the wire, and an answer is matched by this alone. Who sent the answer
is not looked at, so whoever knows the number can answer. What can be said is
that an answer is a whole frame of the right kind with the right number, and that
somebody was still waiting for it (`answer_numbered`).

Whether a datagram is a whole frame is for the reassembler to say, so everything
here is about the frame that a datagram completes, if it completes one.

## Main definitions

* `Endpoint.Event`: Something that happens to an endpoint.
* `Endpoint.step`, `Endpoint.run`: What becomes of it, and whose waiting ends.
* `Endpoint.completes`: The frame that a datagram completes.
* `Endpoint.Tidy`: Tickets tell waiters apart.

## Theorems

* `receive_cases`: What a datagram does to those who wait.
* `request_cases`: What a request does to them.
* `step_waiters`: What anything does to them.
* `Tidy.step`, `Tidy.run`: Tickets go on telling waiters apart.
* `step_keeps`: Whose waiting has not ended goes on waiting.
* `Tidy.ends_once`: Nobody's waiting ends twice.
* `answer_numbered`: An answer carries the number of its request.
-/

namespace ChatHost

namespace Endpoint

/-- Something that happens to an endpoint. To answer a packet is not among it,
    since it leaves the endpoint as it is. -/
inductive Event
  /-- A datagram comes in. -/
  | datagram (peer : SocketAddress) (bytes : Bytes) (now : Instant)
  /-- A packet is sent that wants no answer. -/
  | send (network : Network) (peer : SocketAddress) (payload : Bytes)
  /-- A packet is sent that wants one. -/
  | request (network : Network) (peer : SocketAddress) (payload : Bytes) (timeout : Nat)
      (now : Instant)
  /-- Those who have waited long enough wait no longer. -/
  | expire (now : Instant)
  | close
  | take
  | takeAll
  | dropInbox

/-- What becomes of an endpoint, and whose waiting ends. -/
def step (e : Endpoint) : Event → List Resolution × Endpoint
  | .datagram peer bytes now => e.receive peer bytes now
  | .send network peer payload => ([], (e.send network peer payload).2.2)
  | .request network peer payload timeout now =>
    ([], (e.request network peer payload timeout now).2.2)
  | .expire now => e.expire now
  | .close => e.close
  | .take => ([], e.take.2)
  | .takeAll => ([], e.takeAll.2)
  | .dropInbox => ([], e.dropInbox)

/-- What becomes of an endpoint when one thing happens after the other, and whose
    waiting ends on the way. -/
def run (e : Endpoint) : List Event → List Resolution × Endpoint
  | [] => ([], e)
  | first :: rest =>
    let (resolutions, e) := e.step first
    let (later, e) := e.run rest
    (resolutions ++ later, e)

/-- The frame that a datagram completes: the one that is in it, or the one that it
    holds the last missing piece of. -/
def completes (e : Endpoint) (peer : SocketAddress) (datagram : Bytes) (now : Instant) :
    Option Frame :=
  if e.closed then none
  else
    match Frame.decode datagram with
    | .error _ => none
    | .ok frame => (e.reassembler.accept peer frame now).1

/-- Tickets tell those who wait apart, and have all been given out before. -/
structure Tidy (e : Endpoint) : Prop where
  issued : ∀ waiter ∈ e.waiters, waiter.ticket < e.issued
  apart : (e.waiters.map (·.ticket)).Nodup

section Single

variable (e : Endpoint)

-- Pieces that arrive make no difference but to the reassembler.
theorem receive_eq (peer : SocketAddress) (datagram : Bytes) (now : Instant) :
    ∃ reassembler : Reassembler, e.receive peer datagram now =
      match e.completes peer datagram now with
      | none => ([], { e with reassembler := reassembler })
      | some frame => route { e with reassembler := reassembler } peer frame := by
  rw [receive, completes]
  by_cases hclosed : e.closed = true
  · exact ⟨e.reassembler, by rw [if_pos hclosed, if_pos hclosed]⟩
  · rw [if_neg hclosed, if_neg hclosed]
    rcases Frame.decode datagram with defect | frame
    · exact ⟨e.reassembler, rfl⟩
    · exact ⟨(e.reassembler.accept peer frame now).2, rfl⟩

-- A packet that is put into the inbox ends nobody's waiting.
theorem deposit_waiters (packet : Inbound) :
    (e.deposit packet).waiters = e.waiters ∧ (e.deposit packet).issued = e.issued := by
  rw [deposit]
  split
  · exact ⟨rfl, rfl⟩
  · exact ⟨rfl, rfl⟩

/-- What a datagram does to those who wait: nothing, or it completes the answer to
    one of them, who has waited for its number. -/
theorem receive_cases (peer : SocketAddress) (datagram : Bytes) (now : Instant) :
    (e.receive peer datagram now).2.issued = e.issued ∧
      ((e.receive peer datagram now).1 = [] ∧
          (e.receive peer datagram now).2.waiters = e.waiters ∨
        ∃ (frame : Frame) (waiter : Waiter),
          e.completes peer datagram now = some frame ∧ frame.kind = .response ∧
          waiter ∈ e.waiters ∧ waiter.correlation = frame.correlation ∧
          (e.receive peer datagram now).1 = [⟨waiter.ticket, some frame.payload⟩] ∧
          (e.receive peer datagram now).2.waiters =
            e.waiters.filter fun other => decide (other.ticket ≠ waiter.ticket)) := by
  rcases e.receive_eq peer datagram now with ⟨reassembler, hreceive⟩
  rcases hcompletes : e.completes peer datagram now with _ | frame
  · rw [hcompletes] at hreceive
    rw [hreceive]
    exact ⟨rfl, Or.inl ⟨rfl, rfl⟩⟩
  · rw [hcompletes] at hreceive
    simp only [route] at hreceive
    rcases hkind : frame.kind with _ | _ | _
    · rw [hkind] at hreceive
      rw [hreceive]
      rcases deposit_waiters { e with reassembler := reassembler } ⟨peer, none, frame.payload⟩ with
        ⟨hwaiters, hissued⟩
      exact ⟨hissued, Or.inl ⟨rfl, hwaiters⟩⟩
    · rw [hkind] at hreceive
      rw [hreceive]
      rcases deposit_waiters { e with reassembler := reassembler }
        ⟨peer, some frame.correlation, frame.payload⟩ with ⟨hwaiters, hissued⟩
      exact ⟨hissued, Or.inl ⟨rfl, hwaiters⟩⟩
    · rw [hkind] at hreceive
      simp only [resolve] at hreceive
      rcases hfind : e.waiters.find? fun waiter =>
        decide (waiter.correlation = frame.correlation) with _ | waiter
      · rw [hfind] at hreceive
        rw [hreceive]
        exact ⟨rfl, Or.inl ⟨rfl, rfl⟩⟩
      · rw [hfind] at hreceive
        rw [hreceive]
        have hnumber := List.find?_some hfind
        exact ⟨rfl, Or.inr ⟨frame, waiter, rfl, hkind, List.mem_of_find?_eq_some hfind,
          of_decide_eq_true hnumber, rfl, rfl⟩⟩

/-- What a request does to those who wait: it fails and nobody waits for it, or
    somebody does under the next ticket and the next number. -/
theorem request_cases (network : Network) (peer : SocketAddress) (payload : Bytes)
    (timeout : Nat) (now : Instant) :
    ((∃ error, (e.request network peer payload timeout now).1 = .error error) ∧
        (e.request network peer payload timeout now).2.2.waiters = e.waiters ∧
        e.issued ≤ (e.request network peer payload timeout now).2.2.issued) ∨
      ((e.request network peer payload timeout now).1 = .ok e.issued ∧
        (e.request network peer payload timeout now).2.2.waiters =
          e.waiters ++ [⟨e.issued, e.nextCorrelation, now + timeout⟩] ∧
        (e.request network peer payload timeout now).2.2.issued = e.issued + 1) := by
  rw [request]
  split
  · exact Or.inl ⟨⟨.closed, rfl⟩, rfl, Nat.le_refl _⟩
  · rcases e.transmit network peer .request e.nextCorrelation payload with ⟨error | ⟨⟩, sent⟩
    · exact Or.inl ⟨⟨error, rfl⟩, rfl, Nat.le_succ _⟩
    · exact Or.inr ⟨rfl, rfl, rfl⟩

-- Whose deadline has not come goes on waiting.
theorem expire_waiters (now : Instant) :
    (e.expire now).2.waiters = e.waiters.filter fun waiter => !decide (waiter.deadline ≤ now) := by
  rw [expire, List.partition_eq_filter_filter]
  rfl

-- Whose deadline has come is left without an answer.
theorem expire_resolutions (now : Instant) :
    (e.expire now).1 = (e.waiters.filter fun waiter => decide (waiter.deadline ≤ now)).map
      fun waiter => ⟨waiter.ticket, none⟩ := by
  rw [expire, List.partition_eq_filter_filter]

theorem take_waiters : e.take.2.waiters = e.waiters ∧ e.take.2.issued = e.issued := by
  rw [take]
  split
  · exact ⟨rfl, rfl⟩
  · exact ⟨rfl, rfl⟩

-- A datagram makes nobody wait.
theorem receive_fewer (peer : SocketAddress) (datagram : Bytes) (now : Instant) :
    (e.receive peer datagram now).2.waiters.Sublist e.waiters := by
  rcases e.receive_cases peer datagram now with
    ⟨-, ⟨-, hwaiters⟩ | ⟨frame, waiter, -, -, -, -, -, hwaiters⟩⟩
  · exact hwaiters ▸ List.Sublist.refl _
  · exact hwaiters ▸ List.filter_sublist

-- Neither do deadlines.
theorem expire_fewer (now : Instant) : (e.expire now).2.waiters.Sublist e.waiters :=
  e.expire_waiters now ▸ List.filter_sublist

-- Whose waiting has not ended goes on waiting.
theorem step_keeps {event : Event} {waiter : Waiter} (hwaiter : waiter ∈ e.waiters)
    (h : waiter.ticket ∉ (e.step event).1.map (·.ticket)) :
    waiter ∈ (e.step event).2.waiters := by
  cases event with
  | datagram peer bytes now =>
      rw [step] at h ⊢
      rcases e.receive_cases peer bytes now with
        ⟨-, ⟨-, hwaiters⟩ | ⟨frame, other, -, -, -, -, hdone, hwaiters⟩⟩
      · rw [hwaiters]
        exact hwaiter
      · rw [hdone, List.map_singleton, List.mem_singleton] at h
        rw [hwaiters]
        exact List.mem_filter.mpr ⟨hwaiter, decide_eq_true h⟩
  | request network peer payload timeout now =>
      rw [step]
      rcases e.request_cases network peer payload timeout now with
        ⟨-, hwaiters, -⟩ | ⟨-, hwaiters, -⟩
      · rw [hwaiters]
        exact hwaiter
      · rw [hwaiters]
        exact List.mem_append_left _ hwaiter
  | expire now =>
      rw [step, expire_resolutions] at h
      rw [step, expire_waiters]
      refine List.mem_filter.mpr ⟨hwaiter, ?_⟩
      rw [Bool.not_eq_true', decide_eq_false_iff_not]
      intro hlate
      refine h (List.mem_map.mpr ⟨⟨waiter.ticket, none⟩, ?_, rfl⟩)
      exact List.mem_map_of_mem (List.mem_filter.mpr ⟨hwaiter, decide_eq_true hlate⟩)
  | close =>
      refine absurd ?_ h
      refine List.mem_map.mpr ⟨⟨waiter.ticket, none⟩, ?_, rfl⟩
      exact List.mem_map_of_mem hwaiter
  | take =>
      rw [step, e.take_waiters.1]
      exact hwaiter
  | _ => exact hwaiter

/-- What happens to an endpoint leaves fewer who wait, or adds one who waits under
    the next ticket. -/
theorem step_waiters (event : Event) :
    ((e.step event).2.waiters.Sublist e.waiters ∧ e.issued ≤ (e.step event).2.issued) ∨
      ∃ waiter, (e.step event).2.waiters = e.waiters ++ [waiter] ∧ waiter.ticket = e.issued ∧
        (e.step event).2.issued = e.issued + 1 := by
  cases event with
  | datagram peer bytes now =>
      have hissued := (e.receive_cases peer bytes now).1
      exact Or.inl ⟨e.receive_fewer peer bytes now, Nat.le_of_eq hissued.symm⟩
  | send network peer payload => exact Or.inl ⟨List.Sublist.refl _, Nat.le_succ _⟩
  | request network peer payload timeout now =>
      rcases e.request_cases network peer payload timeout now with
        ⟨-, hwaiters, hissued⟩ | ⟨-, hwaiters, hissued⟩
      · exact Or.inl ⟨hwaiters ▸ List.Sublist.refl _, hissued⟩
      · exact Or.inr ⟨_, hwaiters, rfl, hissued⟩
  | expire now => exact Or.inl ⟨e.expire_fewer now, Nat.le_refl _⟩
  | close => exact Or.inl ⟨List.nil_sublist _, Nat.le_refl _⟩
  | take =>
      rcases e.take_waiters with ⟨hwaiters, hissued⟩
      exact Or.inl ⟨hwaiters ▸ List.Sublist.refl _, Nat.le_of_eq hissued.symm⟩
  | takeAll => exact Or.inl ⟨List.Sublist.refl _, Nat.le_refl _⟩
  | dropInbox => exact Or.inl ⟨List.Sublist.refl _, Nat.le_refl _⟩

end Single

section Tidying

variable {e : Endpoint}

/-- Nobody waits at a new endpoint. -/
theorem tidy_fresh (address : SocketAddress) : Tidy { address } :=
  ⟨fun _ h => absurd h List.not_mem_nil, List.nodup_nil⟩

/-- Whatever happens, tickets go on telling waiters apart: a new one is above all
    that were given out before. -/
theorem Tidy.step (h : e.Tidy) (event : Event) : (e.step event).2.Tidy := by
  rcases e.step_waiters event with ⟨hwaiters, hissued⟩ | ⟨newest, hwaiters, hticket, hissued⟩
  · refine ⟨?_, h.apart.sublist (hwaiters.map _)⟩
    intro waiter hwaiter
    exact Nat.lt_of_lt_of_le (h.issued waiter (hwaiters.mem hwaiter)) hissued
  · refine ⟨?_, ?_⟩
    · intro waiter hwaiter
      rw [hwaiters, List.mem_append, List.mem_singleton] at hwaiter
      rw [hissued]
      rcases hwaiter with hold | rfl
      · exact Nat.lt_succ_of_lt (h.issued waiter hold)
      · exact Nat.lt_succ_of_le (Nat.le_of_eq hticket)
    · rw [hwaiters, List.map_append, List.map_singleton]
      refine List.Nodup.append h.apart (List.nodup_singleton _) ?_
      intro ticket hold hnew
      rcases List.mem_map.mp hold with ⟨waiter, hwaiter, rfl⟩
      have hsame := (List.mem_singleton.mp hnew).trans hticket
      exact absurd hsame (Nat.ne_of_lt (h.issued waiter hwaiter))

/-- So they do after every history. -/
theorem Tidy.run (h : e.Tidy) (events : List Event) : (e.run events).2.Tidy := by
  induction events generalizing e with
  | nil => exact h
  | cons first rest ih => exact ih (h.step first)

-- Whose waiting ends has waited, and waits no longer.
theorem Tidy.step_ends (h : e.Tidy) (event : Event) :
    ((e.step event).1.map (·.ticket)).Nodup ∧
      ∀ ticket ∈ (e.step event).1.map (·.ticket), ticket ∈ e.waiters.map (·.ticket) ∧
        ticket ∉ (e.step event).2.waiters.map (·.ticket) := by
  cases event with
  | datagram peer bytes now =>
      rw [Endpoint.step]
      rcases e.receive_cases peer bytes now with
        ⟨-, ⟨hnone, -⟩ | ⟨frame, waiter, -, -, hwaiter, -, hdone, hwaiters⟩⟩
      · rw [hnone]
        exact ⟨List.nodup_nil, fun _ hticket => absurd hticket List.not_mem_nil⟩
      · rw [hdone, hwaiters]
        refine ⟨List.nodup_singleton _, ?_⟩
        intro ticket hticket
        rw [List.mem_singleton.mp hticket]
        refine ⟨List.mem_map_of_mem hwaiter, ?_⟩
        intro hleft
        rcases List.mem_map.mp hleft with ⟨other, hother, hsame⟩
        have hne := (List.mem_filter.mp hother).2
        exact of_decide_eq_true hne hsame
  | expire now =>
      rw [Endpoint.step, expire_resolutions, expire_waiters, List.map_map]
      have hlate : (e.waiters.filter fun waiter => decide (waiter.deadline ≤ now)).Sublist
          e.waiters := List.filter_sublist
      refine ⟨h.apart.sublist (hlate.map _), ?_⟩
      intro ticket hticket
      rcases List.mem_map.mp hticket with ⟨waiter, hwaiter, rfl⟩
      refine ⟨List.mem_map_of_mem (List.mem_filter.mp hwaiter).1, ?_⟩
      intro hleft
      -- Whoever has the ticket is the one whose deadline has come.
      rcases List.mem_map.mp hleft with ⟨other, hother, hsame⟩
      rcases List.mem_filter.mp hother with ⟨hmem, hearly⟩
      have heq := List.inj_on_of_nodup_map h.apart hmem (List.mem_filter.mp hwaiter).1 hsame
      rw [heq, (List.mem_filter.mp hwaiter).2] at hearly
      exact absurd hearly Bool.false_ne_true
  | close =>
      rw [Endpoint.step, close, List.map_map]
      refine ⟨h.apart, ?_⟩
      intro ticket hticket
      exact ⟨hticket, List.not_mem_nil⟩
  | _ => exact ⟨List.nodup_nil, fun _ hticket => absurd hticket List.not_mem_nil⟩

-- A ticket that is given out and not waited for is never waited for again.
theorem run_ended {ticket : Nat} (h : e.Tidy) (hissued : ticket < e.issued)
    (hended : ticket ∉ e.waiters.map (·.ticket)) (events : List Event) :
    ticket ∉ (e.run events).1.map (·.ticket) := by
  induction events generalizing e with
  | nil => exact List.not_mem_nil
  | cons first rest ih =>
      have hfirst : ticket ∉ (e.step first).1.map (·.ticket) :=
        fun hticket => hended ((h.step_ends first).2 ticket hticket).1
      have hrest : ticket ∉ ((e.step first).2.run rest).1.map (·.ticket) := by
        rcases e.step_waiters first with ⟨hwaiters, hmore⟩ | ⟨newest, hwaiters, hnewest, hmore⟩
        · refine ih (h.step first) (Nat.lt_of_lt_of_le hissued hmore) ?_
          exact fun hticket => hended ((hwaiters.map _).mem hticket)
        · refine ih (h.step first) (hmore ▸ Nat.lt_succ_of_lt hissued) ?_
          rw [hwaiters, List.map_append, List.mem_append, not_or]
          refine ⟨hended, ?_⟩
          rw [List.map_singleton, List.mem_singleton, hnewest]
          exact Nat.ne_of_lt hissued
      rw [run, List.map_append, List.mem_append, not_or]
      exact ⟨hfirst, hrest⟩

/-- Nobody's waiting ends twice. -/
theorem Tidy.ends_once (h : e.Tidy) (events : List Event) :
    ((e.run events).1.map (·.ticket)).Nodup := by
  induction events generalizing e with
  | nil => exact List.nodup_nil
  | cons first rest ih =>
      rcases h.step_ends first with ⟨hapart, hends⟩
      rw [Endpoint.run, List.map_append]
      refine List.Nodup.append hapart (ih (h.step first)) ?_
      intro ticket hfirst hrest
      rcases hends ticket hfirst with ⟨hwaited, hended⟩
      rcases List.mem_map.mp hwaited with ⟨waiter, hwaiter, rfl⟩
      have hissued : waiter.ticket < (e.step first).2.issued := by
        have hbefore := h.issued waiter hwaiter
        rcases e.step_waiters first with ⟨-, hmore⟩ | ⟨-, -, -, hmore⟩
        · exact Nat.lt_of_lt_of_le hbefore hmore
        · exact hmore ▸ Nat.lt_succ_of_lt hbefore
      exact run_ended (h.step first) hissued hended rest hrest

end Tidying

section Answering

variable {e : Endpoint}

-- Waiting ends with an answer only when a datagram completes the answer.
theorem step_answered {event : Event} {ticket : Nat} {answer : Bytes}
    (h : ⟨ticket, some answer⟩ ∈ (e.step event).1) :
    ∃ (source : SocketAddress) (bytes : Bytes) (now : Instant) (frame : Frame) (waiter : Waiter),
      event = .datagram source bytes now ∧ e.completes source bytes now = some frame ∧
      frame.kind = .response ∧ frame.payload = answer ∧ waiter ∈ e.waiters ∧
      waiter.ticket = ticket ∧ waiter.correlation = frame.correlation := by
  cases event with
  | datagram source bytes now =>
      have hreceive : ⟨ticket, some answer⟩ ∈ (e.receive source bytes now).1 := h
      rcases e.receive_cases source bytes now with
        ⟨-, ⟨hnone, -⟩ | ⟨frame, waiter, hframe, hkind, hwaiter, hnumber, hdone, -⟩⟩
      · rw [hnone] at hreceive
        exact absurd hreceive List.not_mem_nil
      · rw [hdone, List.mem_singleton, Resolution.mk.injEq, Option.some.injEq] at hreceive
        exact ⟨source, bytes, now, frame, waiter, rfl, hframe, hkind, hreceive.2.symm, hwaiter,
          hreceive.1.symm, hnumber⟩
  | expire now =>
      have hexpire : ⟨ticket, some answer⟩ ∈ (e.expire now).1 := h
      rw [expire_resolutions] at hexpire
      rcases List.mem_map.mp hexpire with ⟨waiter, -, hnone⟩
      simp at hnone
  | close =>
      rcases List.mem_map.mp h with ⟨waiter, -, hnone⟩
      simp at hnone
  | _ => exact absurd h List.not_mem_nil

-- Whose waiting ends in a run ends it at one of its events.
theorem mem_run {events : List Event} {resolution : Resolution}
    (h : resolution ∈ (e.run events).1) :
    ∃ before event after, events = before ++ event :: after ∧
      resolution ∈ ((e.run before).2.step event).1 := by
  induction events generalizing e with
  | nil => exact absurd h List.not_mem_nil
  | cons first rest ih =>
      rcases List.mem_append.mp h with hfirst | hrest
      · exact ⟨[], first, rest, rfl, hfirst⟩
      · rcases ih hrest with ⟨before, event, after, hsplit, hevent⟩
        exact ⟨first :: before, event, after, by rw [hsplit, List.cons_append], hevent⟩

/-- A ticket that has been given out stays with its number. -/
structure Holds (e : Endpoint) (ticket : Nat) (correlation : UInt32) : Prop where
  issued : ticket < e.issued
  number : ∀ waiter ∈ e.waiters, waiter.ticket = ticket → waiter.correlation = correlation

theorem Holds.step {ticket : Nat} {correlation : UInt32} (h : e.Holds ticket correlation)
    (event : Event) : (e.step event).2.Holds ticket correlation := by
  rcases e.step_waiters event with ⟨hwaiters, hissued⟩ | ⟨newest, hwaiters, hnewest, hissued⟩
  · exact ⟨Nat.lt_of_lt_of_le h.issued hissued,
      fun waiter hwaiter => h.number waiter (hwaiters.mem hwaiter)⟩
  · refine ⟨hissued ▸ Nat.lt_succ_of_lt h.issued, ?_⟩
    intro waiter hwaiter hticket
    rw [hwaiters, List.mem_append, List.mem_singleton] at hwaiter
    rcases hwaiter with hold | rfl
    · exact h.number waiter hold hticket
    · -- Whoever has begun to wait has another ticket.
      exact absurd (hnewest.symm.trans hticket) (Nat.ne_of_gt h.issued)

theorem Holds.run {ticket : Nat} {correlation : UInt32} (h : e.Holds ticket correlation)
    (events : List Event) : (e.run events).2.Holds ticket correlation := by
  induction events generalizing e with
  | nil => exact h
  | cons first rest ih => exact ih (h.step first)

/-- A request is answered by a whole frame that carries its number and says that it
    is an answer, while somebody is still waiting for it, and the answer is what
    the frame carries. -/
theorem answer_numbered (h : e.Tidy) {network : Network} {peer : SocketAddress}
    {payload : Bytes} {timeout : Nat} {now : Instant} {ticket : Nat} {sent : List Datagram}
    {asked : Endpoint} (hrequest : e.request network peer payload timeout now =
      (.ok ticket, sent, asked)) {later : List Event} {answer : Bytes}
    (hanswer : ⟨ticket, some answer⟩ ∈ (asked.run later).1) :
    ∃ (before after : List Event) (source : SocketAddress) (bytes : Bytes) (arrival : Instant)
      (frame : Frame),
      later = before ++ .datagram source bytes arrival :: after ∧
      (∃ waiter ∈ (asked.run before).2.waiters, waiter.ticket = ticket) ∧
      (asked.run before).2.completes source bytes arrival = some frame ∧
      frame.kind = .response ∧ frame.correlation = e.nextCorrelation ∧ frame.payload = answer := by
  have hasked : asked.Holds ticket e.nextCorrelation := by
    rcases e.request_cases network peer payload timeout now with
      ⟨⟨error, herror⟩, -⟩ | ⟨hok, hwaiters, hissued⟩
    · rw [hrequest] at herror
      cases herror
    · rw [hrequest] at hok hwaiters hissued
      cases hok
      refine ⟨hissued ▸ Nat.lt_succ_self _, ?_⟩
      intro waiter hwaiter hticket
      have hmem := hwaiters ▸ hwaiter
      rcases List.mem_append.mp hmem with hold | hnew
      · exact absurd hticket (Nat.ne_of_lt (h.issued waiter hold))
      · rw [List.mem_singleton.mp hnew]
  rcases mem_run hanswer with ⟨before, event, after, hsplit, hevent⟩
  rcases step_answered hevent with
    ⟨source, bytes, arrival, frame, waiter, rfl, hframe, hkind, hpayload, hwaiter, hticket, hnumber⟩
  have hnumber' := (hasked.run before).number waiter hwaiter hticket
  exact ⟨before, after, source, bytes, arrival, frame, hsplit, ⟨waiter, hwaiter, hticket⟩, hframe,
    hkind, hnumber.symm.trans hnumber', hpayload⟩

end Answering

end Endpoint

end ChatHost
