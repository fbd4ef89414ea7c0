import ChatHost.Proofs.Link.Waiting

/-!
# Settled Requests

How every request of an endpoint ends.

How a request ends can be told from the events after it alone, without a look at the table of
those who wait (`Endpoint.outcome`): by the first answer with its number, by its deadline, or
when the endpoint is closed, whichever comes first. The table agrees with this as long as no
two requests have the same number. Numbers are tickets, cut down to what goes over the wire
(`Endpoint.Numbered`), so this is so until as many numbers were given out as there are.

An answer is in a whole frame, and so what a datagram does is said of the frame that it
completes: a message or a request goes into the inbox, an answer to whoever waits for its
number.

## Main definitions

* `Frame.inbound?`: The packet that a frame puts into the inbox.
* `Endpoint.ends`, `Endpoint.outcome`: How a request ends, by the events after it.
* `Endpoint.endsOf`: What is told of the end of a request.
* `Endpoint.Numbered`: Whoever waits, waits under the number that belongs to the ticket.
* `Endpoint.Requested`: What becomes of a request.

## Theorems

* `receive_incomplete`, `receive_inbound`, `receive_response`: What a datagram does.
* `Numbered.step`, `Numbered.run`: Numbers go on belonging to tickets.
* `Numbered.unique`: A number belongs to one request.
* `Numbered.endsOf_step`: An event ends waiting exactly as it says.
* `Numbered.run_settles`, `Numbered.requested`: Every request ends as the events say.
* `run_asked`: Whoever waits has asked.
-/

namespace ChatHost

/-- The packet that a whole frame puts into the inbox. An answer puts none. -/
def Frame.inbound? (peer : SocketAddress) (frame : Frame) : Option Inbound :=
  match frame.kind with
  | .message => some ⟨peer, none, frame.payload⟩
  | .request => some ⟨peer, some frame.correlation, frame.payload⟩
  | .response => none

-- Every packet but an answer is put into the inbox.
theorem Frame.exists_inbound (frame : Frame) (peer : SocketAddress)
    (h : frame.kind ≠ .response) : ∃ packet, frame.inbound? peer = some packet := by
  rw [inbound?]
  rcases hkind : frame.kind with _ | _ | _
  · exact ⟨_, rfl⟩
  · exact ⟨_, rfl⟩
  · exact absurd hkind h

namespace Endpoint

/-- A new endpoint. -/
def fresh (address : SocketAddress) : Endpoint := { address }

/-- How an event ends the waiting of a request with some number and deadline, if it does. -/
def ends (e : Endpoint) (correlation : UInt32) (deadline : Instant) :
    Event → Option (Option Bytes)
  | .datagram peer bytes now =>
    match e.completes peer bytes now with
    | none => none
    | some frame =>
      if frame.kind = .response ∧ frame.correlation = correlation then some (some frame.payload)
      else none
  | .expire now => if deadline ≤ now then some none else none
  | .close => some none
  | _ => none

/-- How the waiting of a request ends in the course of events: as the first of them says
    that ends it. -/
def outcome (e : Endpoint) (correlation : UInt32) (deadline : Instant) :
    List Event → Option (Option Bytes)
  | [] => none
  | first :: rest =>
    match e.ends correlation deadline first with
    | some answer => some answer
    | none => (e.step first).2.outcome correlation deadline rest

/-- How the waiting under a ticket has ended, each time it has. -/
def endsOf (ticket : Nat) (resolutions : List Resolution) : List (Option Bytes) :=
  (resolutions.filter fun resolution => decide (resolution.ticket = ticket)).map (·.answer)

/-- Whoever waits, waits under the number that belongs to the ticket. -/
structure Numbered (e : Endpoint) : Prop extends Tidy e where
  number : ∀ waiter ∈ e.waiters, waiter.correlation = UInt32.ofNat (waiter.ticket + 1)

section Ending

theorem endsOf_append (ticket : Nat) (first second : List Resolution) :
    endsOf ticket (first ++ second) = endsOf ticket first ++ endsOf ticket second := by
  rw [endsOf, List.filter_append, List.map_append]
  rfl

-- Waiting has not ended if the ticket does not occur.
theorem endsOf_eq_nil {ticket : Nat} {resolutions : List Resolution}
    (h : ticket ∉ resolutions.map (·.ticket)) : endsOf ticket resolutions = [] := by
  refine List.map_eq_nil_iff.mpr (List.filter_eq_nil_iff.mpr ?_)
  intro resolution hresolution hsame
  exact h (List.mem_map.mpr ⟨resolution, hresolution, of_decide_eq_true hsame⟩)

theorem mem_of_endsOf {ticket : Nat} {resolutions : List Resolution} {answer : Option Bytes}
    (h : answer ∈ endsOf ticket resolutions) : ticket ∈ resolutions.map (·.ticket) := by
  rcases List.mem_map.mp h with ⟨resolution, hresolution, -⟩
  rcases List.mem_filter.mp hresolution with ⟨hmem, hsame⟩
  exact List.mem_map.mpr ⟨resolution, hmem, of_decide_eq_true hsame⟩

/-- Of those whose waiting ends without an answer, each is told so once. -/
theorem endsOf_unanswered {waiters : List Waiter} (h : (waiters.map (·.ticket)).Nodup)
    {waiter : Waiter} (hwaiter : waiter ∈ waiters) :
    endsOf waiter.ticket (waiters.map fun other => ⟨other.ticket, none⟩) = [none] := by
  induction waiters with
  | nil => exact absurd hwaiter List.not_mem_nil
  | cons first rest ih =>
      rw [List.map_cons, List.nodup_cons] at h
      rw [List.map_cons, ← List.singleton_append, endsOf_append]
      by_cases hfirst : first.ticket = waiter.ticket
      · have hrest : endsOf waiter.ticket (rest.map fun other => ⟨other.ticket, none⟩) = [] := by
          refine endsOf_eq_nil ?_
          rw [List.map_map, ← hfirst]
          exact h.1
        rw [hrest, endsOf, List.filter_singleton, decide_eq_true hfirst]
        rfl
      · have hmem : waiter ∈ rest :=
          (List.mem_cons.mp hwaiter).resolve_left fun hsame => hfirst (hsame ▸ rfl)
        rw [ih h.2 hmem, endsOf, List.filter_singleton, decide_eq_false hfirst]
        rfl

end Ending

section Running

variable (e : Endpoint)

theorem run_cons (first : Event) (rest : List Event) :
    e.run (first :: rest) =
      ((e.step first).1 ++ ((e.step first).2.run rest).1, ((e.step first).2.run rest).2) := rfl

theorem run_append (before after : List Event) :
    e.run (before ++ after) =
      ((e.run before).1 ++ ((e.run before).2.run after).1, ((e.run before).2.run after).2) := by
  induction before generalizing e with
  | nil => rfl
  | cons first rest ih => rw [List.cons_append, run_cons, run_cons, ih, List.append_assoc]

section Receiving

variable {peer : SocketAddress} {bytes : Bytes} {now : Instant} {frame : Frame}

-- A datagram that completes nothing is for the reassembler alone.
theorem receive_incomplete (h : e.completes peer bytes now = none) :
    ∃ reassembler, e.receive peer bytes now = ([], { e with reassembler := reassembler }) := by
  rcases e.receive_eq peer bytes now with ⟨reassembler, hreceive⟩
  rw [h] at hreceive
  exact ⟨reassembler, hreceive⟩

theorem receive_inbound (h : e.completes peer bytes now = some frame) {packet : Inbound}
    (hpacket : frame.inbound? peer = some packet) :
    ∃ reassembler, e.receive peer bytes now =
      ([], { e with reassembler := reassembler }.deposit packet) := by
  rcases e.receive_eq peer bytes now with ⟨reassembler, hreceive⟩
  rw [h] at hreceive
  refine ⟨reassembler, hreceive.trans ?_⟩
  rw [Frame.inbound?] at hpacket
  rcases hkind : frame.kind with _ | _ | _
  · rw [hkind] at hpacket
    simp only [route, hkind, Option.some.inj hpacket]
  · rw [hkind] at hpacket
    simp only [route, hkind, Option.some.inj hpacket]
  · rw [hkind] at hpacket
    exact absurd hpacket (by simp)

theorem receive_response (h : e.completes peer bytes now = some frame)
    (hkind : frame.kind = .response) :
    ∃ reassembler, e.receive peer bytes now =
      { e with reassembler := reassembler }.resolve frame.correlation frame.payload := by
  rcases e.receive_eq peer bytes now with ⟨reassembler, hreceive⟩
  rw [h] at hreceive
  refine ⟨reassembler, hreceive.trans ?_⟩
  simp only [route, hkind]

theorem resolve_nobody {correlation : UInt32} (answer : Bytes)
    (h : ∀ waiter ∈ e.waiters, waiter.correlation ≠ correlation) :
    e.resolve correlation answer = ([], e) := by
  have hfind : (e.waiters.find? fun waiter => decide (waiter.correlation = correlation)) = none :=
    List.find?_eq_none.mpr fun waiter hwaiter hsame => h waiter hwaiter (of_decide_eq_true hsame)
  rw [resolve, hfind]

theorem ends_completed {e : Endpoint} (h : e.completes peer bytes now = some frame)
    {correlation : UInt32} {deadline : Instant} :
    e.ends correlation deadline (.datagram peer bytes now) =
      if frame.kind = .response ∧ frame.correlation = correlation then some (some frame.payload)
      else none := by
  rw [ends, h]

end Receiving

-- Numbers are given out one after the other.
theorem issued_step (event : Event) : e.issued ≤ (e.step event).2.issued := by
  rcases e.step_waiters event with ⟨-, hissued⟩ | ⟨-, -, -, hissued⟩
  · exact hissued
  · exact hissued ▸ Nat.le_succ _

theorem issued_run (events : List Event) : e.issued ≤ (e.run events).2.issued := by
  induction events generalizing e with
  | nil => exact Nat.le_refl _
  | cons first rest ih => exact Nat.le_trans (e.issued_step first) (ih _)

/-- What happens to an endpoint makes nobody wait, unless it is a request that could be
    sent. -/
theorem step_newcomer (event : Event) :
    (e.step event).2.waiters.Sublist e.waiters ∨
      ∃ (network : Network) (peer : SocketAddress) (payload : Bytes) (timeout : Nat)
        (now : Instant), event = .request network peer payload timeout now ∧
          (e.request network peer payload timeout now).1 = .ok e.issued ∧
          (e.step event).2.waiters =
            e.waiters ++ [⟨e.issued, e.nextCorrelation, now + timeout⟩] := by
  cases event with
  | datagram peer bytes now => exact Or.inl (e.receive_fewer peer bytes now)
  | request network peer payload timeout now =>
      rcases e.request_cases network peer payload timeout now with
        ⟨-, hwaiters, -⟩ | ⟨hok, hwaiters, -⟩
      · exact Or.inl (hwaiters ▸ List.Sublist.refl _)
      · exact Or.inr ⟨network, peer, payload, timeout, now, rfl, hok, hwaiters⟩
  | expire now => exact Or.inl (e.expire_fewer now)
  | close => exact Or.inl (List.nil_sublist _)
  | take => exact Or.inl (e.take_waiters.1 ▸ List.Sublist.refl _)
  | _ => exact Or.inl (List.Sublist.refl _)

end Running

namespace Numbered

variable {e : Endpoint}

theorem fresh (address : SocketAddress) : (fresh address).Numbered :=
  { tidy_fresh address with number := fun _ h => absurd h List.not_mem_nil }

/-- Whatever happens, whoever waits does so under the number that belongs to the ticket. -/
theorem step (h : e.Numbered) (event : Event) : (e.step event).2.Numbered := by
  refine { h.toTidy.step event with number := ?_ }
  intro waiter hwaiter
  rcases e.step_newcomer event with hfewer | ⟨_, _, _, _, _, -, -, hwaiters⟩
  · exact h.number waiter (hfewer.mem hwaiter)
  · rw [hwaiters, List.mem_append, List.mem_singleton] at hwaiter
    rcases hwaiter with hold | rfl
    · exact h.number waiter hold
    · rfl

theorem run (h : e.Numbered) (events : List Event) : (e.run events).2.Numbered := by
  induction events generalizing e with
  | nil => exact h
  | cons first rest ih => exact ih (h.step first)

/-- A number belongs to one request, as long as there are numbers that were not given out. -/
theorem unique (h : e.Numbered) (hids : e.issued < UInt32.size) {waiter other : Waiter}
    (hwaiter : waiter ∈ e.waiters) (hother : other ∈ e.waiters)
    (hsame : waiter.correlation = other.correlation) : waiter = other := by
  refine List.inj_on_of_nodup_map h.apart hwaiter hother ?_
  rw [h.number waiter hwaiter, h.number other hother] at hsame
  have hfirst := h.issued waiter hwaiter
  have hsecond := h.issued other hother
  have hnat := congrArg UInt32.toNat hsame
  rw [UInt32.toNat_ofNat_of_lt' (by omega), UInt32.toNat_ofNat_of_lt' (by omega)] at hnat
  exact Nat.succ.inj hnat

-- The table is asked for a number and finds who waits for it.
theorem find?_waiter (h : e.Numbered) (hids : e.issued < UInt32.size) {waiter : Waiter}
    (hwaiter : waiter ∈ e.waiters) :
    (e.waiters.find? fun other => decide (other.correlation = waiter.correlation)) =
      some waiter := by
  rcases hfind : e.waiters.find? fun other =>
    decide (other.correlation = waiter.correlation) with _ | found
  · exact absurd (decide_eq_true rfl) (List.find?_eq_none.mp hfind waiter hwaiter)
  · have hfound := List.find?_some hfind
    have hsame : found.correlation = waiter.correlation := of_decide_eq_true hfound
    have hfirst := h.unique hids (List.mem_of_find?_eq_some hfind) hwaiter hsame
    exact hfind.trans (congrArg some hfirst)

-- Pieces that arrive change nobody's number.
theorem rearranged (h : e.Numbered) (reassembler : Reassembler) :
    { e with reassembler := reassembler }.Numbered :=
  { issued := h.issued, apart := h.apart, number := h.number }

-- An answer goes to whoever waits for its number.
theorem resolve_waiting (h : e.Numbered) (hids : e.issued < UInt32.size) {waiter : Waiter}
    (hwaiter : waiter ∈ e.waiters) (answer : Bytes) :
    e.resolve waiter.correlation answer =
      ([⟨waiter.ticket, some answer⟩],
        { e with
          waiters := e.waiters.filter fun other => decide (other.ticket ≠ waiter.ticket) }) := by
  rw [resolve, h.find?_waiter hids hwaiter]

/-- What an event makes of somebody who waits is what it says of their number and their
    deadline. -/
theorem endsOf_step (h : e.Numbered) (hids : e.issued < UInt32.size) {waiter : Waiter}
    (hwaiter : waiter ∈ e.waiters) (event : Event) :
    endsOf waiter.ticket (e.step event).1 =
      (e.ends waiter.correlation waiter.deadline event).toList := by
  cases event with
  | datagram peer bytes now =>
      have hstep : (e.step (.datagram peer bytes now)).1 = (e.receive peer bytes now).1 := rfl
      rw [hstep]
      rcases hframe : e.completes peer bytes now with _ | frame
      · rcases e.receive_incomplete hframe with ⟨_, hreceive⟩
        rw [hreceive, ends, hframe]
        rfl
      · rw [ends_completed hframe]
        by_cases hkind : frame.kind = .response
        · rcases e.receive_response hframe hkind with ⟨reassembler, hreceive⟩
          have hnumbered := h.rearranged reassembler
          rw [hreceive]
          by_cases hsame : frame.correlation = waiter.correlation
          · rw [if_pos ⟨hkind, hsame⟩, hsame, hnumbered.resolve_waiting hids hwaiter]
            simp [endsOf]
          · rw [if_neg fun hboth => hsame hboth.2]
            by_cases hother : ∃ other ∈ e.waiters, other.correlation = frame.correlation
            · -- Somebody else is answered, whose ticket is another.
              rcases hother with ⟨other, hother, hnumber⟩
              rw [← hnumber, hnumbered.resolve_waiting hids hother]
              refine endsOf_eq_nil fun hticket => hsame ?_
              have hequal := List.mem_singleton.mp hticket
              rw [← hnumber, List.inj_on_of_nodup_map h.apart hother hwaiter hequal.symm]
            · have hnobody : ∀ other ∈ e.waiters, other.correlation ≠ frame.correlation :=
                fun other hmem hnumber => hother ⟨other, hmem, hnumber⟩
              rw [resolve_nobody { e with reassembler := reassembler } _ hnobody]
              rfl
        · rw [if_neg fun hboth => hkind hboth.1]
          rcases frame.exists_inbound peer hkind with ⟨packet, hpacket⟩
          rcases e.receive_inbound hframe hpacket with ⟨_, hreceive⟩
          rw [hreceive]
          rfl
  | expire now =>
      rw [Endpoint.step, expire_resolutions, ends]
      by_cases hlate : waiter.deadline ≤ now
      · rw [if_pos hlate]
        exact endsOf_unanswered (h.apart.sublist (List.filter_sublist.map _))
          (List.mem_filter.mpr ⟨hwaiter, decide_eq_true hlate⟩)
      · rw [if_neg hlate]
        refine endsOf_eq_nil ?_
        rw [List.map_map]
        intro hticket
        rcases List.mem_map.mp hticket with ⟨other, hother, hsame⟩
        rcases List.mem_filter.mp hother with ⟨hmem, hdue⟩
        rw [List.inj_on_of_nodup_map h.apart hmem hwaiter hsame] at hdue
        exact hlate (of_decide_eq_true hdue)
  | close => exact endsOf_unanswered h.apart hwaiter
  | _ => rfl

/-- Whose waiting is ended by an event waits no longer. -/
theorem step_ended (h : e.Numbered) (hids : e.issued < UInt32.size) {waiter : Waiter}
    (hwaiter : waiter ∈ e.waiters) {event : Event} {answer : Option Bytes}
    (hends : e.ends waiter.correlation waiter.deadline event = some answer) :
    waiter.ticket ∉ (e.step event).2.waiters.map (·.ticket) := by
  have hmem : answer ∈ endsOf waiter.ticket (e.step event).1 := by
    rw [h.endsOf_step hids hwaiter, hends]
    exact List.mem_singleton.mpr rfl
  exact ((h.toTidy.step_ends event).2 _ (mem_of_endsOf hmem)).2

/-- Everybody else goes on waiting. -/
theorem step_unended (h : e.Numbered) (hids : e.issued < UInt32.size) {waiter : Waiter}
    (hwaiter : waiter ∈ e.waiters) {event : Event}
    (hends : e.ends waiter.correlation waiter.deadline event = none) :
    waiter ∈ (e.step event).2.waiters := by
  refine e.step_keeps hwaiter fun hticket => ?_
  rcases List.mem_map.mp hticket with ⟨resolution, hresolution, hsame⟩
  have hmem : resolution.answer ∈ endsOf waiter.ticket (e.step event).1 :=
    List.mem_map_of_mem (List.mem_filter.mpr ⟨hresolution, decide_eq_true hsame⟩)
  rw [h.endsOf_step hids hwaiter, hends] at hmem
  exact List.not_mem_nil hmem

-- A ticket that is given out and not waited for stays so.
theorem run_gone (h : e.Numbered) {ticket : Nat} (hissued : ticket < e.issued)
    (hgone : ticket ∉ e.waiters.map (·.ticket)) (events : List Event) :
    ticket ∉ (e.run events).2.waiters.map (·.ticket) := by
  induction events generalizing e with
  | nil => exact hgone
  | cons first rest ih =>
      have hstep : ticket ∉ (e.step first).2.waiters.map (·.ticket) := by
        rcases e.step_newcomer first with hfewer | ⟨_, _, _, _, _, -, -, hwaiters⟩
        · exact fun hticket => hgone ((hfewer.map _).mem hticket)
        · rw [hwaiters, List.map_append, List.mem_append, not_or]
          refine ⟨hgone, fun hticket => ?_⟩
          exact absurd (List.mem_singleton.mp hticket) (Nat.ne_of_lt hissued)
      exact ih (h.step first) (Nat.lt_of_lt_of_le hissued (e.issued_step first)) hstep

/-- Whoever waits is told once how the waiting ended, as the events say, and waits until
    then. -/
theorem run_settles (h : e.Numbered) {waiter : Waiter} (hwaiter : waiter ∈ e.waiters)
    {events : List Event} (hids : (e.run events).2.issued < UInt32.size) :
    endsOf waiter.ticket (e.run events).1 =
        (e.outcome waiter.correlation waiter.deadline events).toList ∧
      (waiter.ticket ∈ (e.run events).2.waiters.map (·.ticket) ↔
        e.outcome waiter.correlation waiter.deadline events = none) := by
  induction events generalizing e with
  | nil => exact ⟨rfl, iff_of_true (List.mem_map_of_mem hwaiter) rfl⟩
  | cons first rest ih =>
      have hbefore := Nat.lt_of_le_of_lt (e.issued_run (first :: rest)) hids
      rw [run_cons, endsOf_append, h.endsOf_step hbefore hwaiter, outcome]
      rcases hends : e.ends waiter.correlation waiter.deadline first with _ | answer
      · exact ih (h.step first) (h.step_unended hbefore hwaiter hends) hids
      · -- Nothing is left to be told.
        have hended := h.step_ended hbefore hwaiter hends
        have hissued := Nat.lt_of_lt_of_le (h.issued waiter hwaiter) (e.issued_step first)
        have hquiet := run_ended (h.step first).toTidy hissued hended rest
        rw [endsOf_eq_nil hquiet]
        exact ⟨rfl, iff_of_false ((h.step first).run_gone hissued hended rest)
          (Option.some_ne_none _)⟩

end Numbered

section Asking

variable {e : Endpoint}

-- Nobody is told of a ticket that was not given out before.
theorem Tidy.ticket_lt (h : e.Tidy) (events : List Event) :
    ∀ ticket ∈ (e.run events).1.map (·.ticket), ticket < (e.run events).2.issued := by
  induction events generalizing e with
  | nil => exact fun _ hticket => absurd hticket List.not_mem_nil
  | cons first rest ih =>
      intro ticket hticket
      rw [run_cons, List.map_append, List.mem_append] at hticket
      rcases hticket with hfirst | hrest
      · rcases List.mem_map.mp ((h.step_ends first).2 ticket hfirst).1 with ⟨waiter, hwaiter, rfl⟩
        exact Nat.lt_of_lt_of_le (h.issued waiter hwaiter) (e.issued_run (first :: rest))
      · exact ih (h.step first) ticket hrest

/-- Whoever waits, or has waited, has waited from the beginning or has asked since. -/
theorem run_asked (h : e.Tidy) (events : List Event) {ticket : Nat}
    (hticket : ticket ∈ (e.run events).1.map (·.ticket) ∨
      ticket ∈ (e.run events).2.waiters.map (·.ticket)) :
    ticket ∈ e.waiters.map (·.ticket) ∨
      ∃ (before : List Event) (network : Network) (peer : SocketAddress) (payload : Bytes)
        (timeout : Nat) (now : Instant) (after : List Event),
        events = before ++ .request network peer payload timeout now :: after ∧
          ((e.run before).2.request network peer payload timeout now).1 = .ok ticket := by
  induction events generalizing e with
  | nil => exact Or.inl (hticket.resolve_left List.not_mem_nil)
  | cons first rest ih =>
      rw [run_cons, List.map_append, List.mem_append, or_assoc] at hticket
      rcases hticket with hfirst | hlater
      · exact Or.inl ((h.step_ends first).2 ticket hfirst).1
      · rcases ih (h.step first) hlater with hwaiting |
          ⟨before, network, peer, payload, timeout, now, after, hsplit, hok⟩
        · rcases e.step_newcomer first with hfewer |
            ⟨network, peer, payload, timeout, now, rfl, hok, hwaiters⟩
          · exact Or.inl ((hfewer.map _).mem hwaiting)
          · rw [hwaiters, List.map_append, List.mem_append, List.map_singleton,
              List.mem_singleton] at hwaiting
            rcases hwaiting with hold | rfl
            · exact Or.inl hold
            · exact Or.inr ⟨[], network, peer, payload, timeout, now, rest, rfl, hok⟩
        · exact Or.inr ⟨first :: before, network, peer, payload, timeout, now, after,
            by rw [hsplit, List.cons_append], hok⟩

end Asking

-- Waiting ends at the deadline at the latest, or when the endpoint is closed.
theorem outcome_ne_none (e : Endpoint) (correlation : UInt32) {deadline : Instant}
    {events : List Event}
    (h : .close ∈ events ∨ ∃ late, deadline ≤ late ∧ .expire late ∈ events) :
    e.outcome correlation deadline events ≠ none := by
  induction events generalizing e with
  | nil =>
      rcases h with hclose | ⟨_, -, hexpire⟩
      · exact absurd hclose List.not_mem_nil
      · exact absurd hexpire List.not_mem_nil
  | cons first rest ih =>
      rw [outcome]
      rcases hends : e.ends correlation deadline first with _ | answer
      · refine ih _ ?_
        rcases h with hclose | ⟨late, hlate, hexpire⟩
        · rcases List.mem_cons.mp hclose with rfl | hrest
          · exact absurd hends (Option.some_ne_none _)
          · exact Or.inl hrest
        · rcases List.mem_cons.mp hexpire with rfl | hrest
          · rw [ends, if_pos hlate] at hends
            exact absurd hends (Option.some_ne_none _)
          · exact Or.inr ⟨late, hlate, hrest⟩
      · exact Option.some_ne_none _

/-- What becomes of a request in the course of events. -/
structure Requested (e : Endpoint) (told : List Resolution) (asker : Endpoint)
    (network : Network) (peer : SocketAddress) (payload : Bytes) (timeout : Nat) (now : Instant)
    (after : List Event) : Prop where
  /-- Nobody waits for what cannot be sent. -/
  unsent : ∀ error, (asker.request network peer payload timeout now).1 = .error error →
    (asker.request network peer payload timeout now).2.2.waiters = asker.waiters
  sent : ∀ ticket, (asker.request network peer payload timeout now).1 = .ok ticket →
    let asked := (asker.request network peer payload timeout now).2.2
    let outcome := asked.outcome asker.nextCorrelation (now + timeout) after
    endsOf ticket told = outcome.toList ∧
      (ticket ∈ e.waiters.map (·.ticket) ↔ outcome = none) ∧
      ((.close ∈ after ∨ ∃ late, now + timeout ≤ late ∧ .expire late ∈ after) → outcome ≠ none)

/-- Every request ends as the events after it say. -/
theorem Numbered.requested {asker : Endpoint} (h : asker.Numbered) {earlier : List Resolution}
    (hearlier : ∀ ticket ∈ earlier.map (·.ticket), ticket < asker.issued) (network : Network)
    (peer : SocketAddress) (payload : Bytes) (timeout : Nat) (now : Instant)
    (after : List Event)
    (hids : (asker.run (.request network peer payload timeout now :: after)).2.issued
      < UInt32.size) :
    let later := asker.run (.request network peer payload timeout now :: after)
    Requested later.2 (earlier ++ later.1) asker network peer payload timeout now after := by
  intro later
  rcases asker.request_cases network peer payload timeout now with
    ⟨⟨error, herror⟩, hwaiters, -⟩ | ⟨hok, hwaiters, -⟩
  · refine ⟨fun _ _ => hwaiters, fun ticket hticket => ?_⟩
    rw [herror] at hticket
    exact absurd hticket (by simp)
  · refine ⟨fun error herror => ?_, fun ticket hticket => ?_⟩
    · rw [hok] at herror
      exact absurd herror (by simp)
    · obtain rfl := Except.ok.inj (hok.symm.trans hticket)
      let waiter : Waiter := ⟨asker.issued, asker.nextCorrelation, now + timeout⟩
      have hwaiter : waiter ∈ (asker.request network peer payload timeout now).2.2.waiters := by
        rw [hwaiters]
        exact List.mem_append_right _ (List.mem_singleton.mpr rfl)
      have hasked := h.step (.request network peer payload timeout now)
      rcases hasked.run_settles hwaiter hids with ⟨htold, hwaits⟩
      -- Before it asked, nobody was told of its ticket.
      have hquiet : endsOf asker.issued earlier = [] :=
        endsOf_eq_nil fun hmem => Nat.lt_irrefl _ (hearlier _ hmem)
      refine ⟨?_, hwaits, outcome_ne_none _ _⟩
      rw [endsOf_append, hquiet]
      exact htold

end Endpoint

end ChatHost
