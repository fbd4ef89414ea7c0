import ChatHost.Proofs.Link.Waiting
import ChatHost.Proofs.Server.Sweeps
import ChatHost.Proofs.Server.Turns

/-!
# Inquiries

What becomes of a user who is asked whether they are there, at a server with its
socket and its clock.

A sweep is out from the turn at which it asks to the turn at which the last of
those who were asked has answered or been given up. Any number of turns may lie
in between, each with a datagram or without. Whoever has not answered is waited
for (`Session.Regular`), and the waiting ends with an answer or at its deadline.
So a user for whom nobody answers is given up in the end, and the sweep takes
them offline, unless they have been heard from in the meantime.

Where an answer comes from is not asked at any point. It counts for the user in
whose inquiry its number was given out.

## Main definitions

* `Inquiry.noteAll`: What an inquiry makes of the ends of waiting.
* `Session.after`: A session after something has happened at its endpoint.
* `Session.Regular`: Nobody is asked twice, and who has not answered is waited for.
* `Session.Awaits`: A sweep is out in which a user has not answered.

## Theorems

* `Service.step_ascends`: Users stand in order, whatever the store answers.
* `Service.Leads.gone`: Ticks are nothing to those who are gone.
* `Session.Regular.after`, `Turn.regular_settle`, `Turn.regular_arrive`,
  `Turn.regular_handleNext`: Sessions stay regular.
* `Session.Awaits.after`, `Turn.arrive_awaits`, `Turn.handleNext_awaits`: Who is not
  answered for is waited for.
* `Turn.settle_awaits`: They are taken offline when all deadlines have come.
-/

namespace ChatHost

section Handling

variable {σ : Type} [Gateway σ]

-- Whatever the store answers, users stand in order.
theorem Move.ascends {server : ServerId} {request : Request} {w w' : World σ} {handler : Handler}
    (h : Move server request w handler w') (hw : w.live.presence.Ascends) :
    w'.live.presence.Ascends := by
  cases h with
  | joined hstore => exact hw.insert _
  | opened howns hfound =>
      rw [Tracker.openChannel_eq]
      exact hw.of_roster (Tracker.roster_modify _ (fun _ => rfl) fun _ => rfl)
  | said howns hfound hstore => exact hw.of_roster (Tracker.roster_markOnline _ _ _)
  | _ => exact hw

theorem dispatch_ascends (server : ServerId) {w : World σ} (hw : w.live.presence.Ascends)
    (peer : SocketAddress) (packet : Bytes) (now : Instant) :
    (dispatch .standard server peer packet now w).2.live.presence.Ascends := by
  rcases dispatch_moves server peer packet now w with hsame | ⟨handler, payload, -, hmove⟩
  · rw [hsame]
    exact hw
  · refine hmove.ascends ?_
    rw [World.touch]
    split
    · exact hw.of_roster (Tracker.roster_touch _ _ _)
    · exact hw

end Handling

namespace Service

variable {σ : Type} [Gateway σ]

/-- Whatever comes to pass, users stand in order. -/
theorem step_ascends {s : Service σ} (hs : s.presence.Ascends) (o : Occurrence) :
    (s.step o).presence.Ascends := by
  cases o with
  | packet peer payload => exact dispatch_ascends s.server hs peer payload s.clock
  | settle alive => exact hs.of_roster (roster_applyHeartbeats _ _ _)
  | grant username role =>
      simp only [step, presence]
      split
      · exact hs.of_roster (Tracker.roster_setRole username role)
      · exact hs
  | _ => exact hs

theorem Leads.ascends {among : Occurrence → Bool} {s s' : Service σ} (h : Leads among s s')
    (hs : s.presence.Ascends) : s'.presence.Ascends := by
  rcases h.history with ⟨history, -, rfl⟩
  exact run_invariant (fun t => t.presence.Ascends) (fun t o ht => step_ascends ht o) s history hs

/-- Ticks are nothing to those who are gone. -/
theorem Leads.gone {s s' : Service σ} (h : Leads Occurrence.isTick s s') {id : UserId}
    (hs : s.presence.Gone id) : s'.presence.Gone id := by
  have hrun : ∀ (history : List Occurrence) (s : Service σ), (∀ o ∈ history, o.isTick = true) →
      s.presence.Gone id → (s.run history).presence.Gone id := by
    intro history
    induction history with
    | nil => exact fun s _ hs => hs
    | cons o rest ih =>
        intro s hticks hs
        have ho := hticks o List.mem_cons_self
        refine ih (s.step o) (fun p hp => hticks p (List.mem_cons_of_mem _ hp)) ?_
        cases o with
        | broadcast accepts => exact hs
        | ask staleAfter => exact hs
        | settle alive => exact hs.applyHeartbeats s.clock (s.asked.zip alive)
        | _ => simp [Occurrence.isTick] at ho
  rcases h.history with ⟨history, hticks, rfl⟩
  exact hrun history s hticks hs

end Service

section Noting

namespace Inquiry

/-- Takes note of the ends of waiting, one after the other. -/
def noteAll (resolutions : List Resolution) (inquiry : Inquiry) : Inquiry :=
  resolutions.foldl (fun inquiry resolution => inquiry.note resolution) inquiry

theorem noteAll_cons (first : Resolution) (rest : List Resolution) (inquiry : Inquiry) :
    inquiry.noteAll (first :: rest) = (inquiry.note first).noteAll rest := rfl

-- What is settled stays as it was settled.
@[simp] theorem noteAll_settled (resolutions : List Resolution) (alive : Bool) :
    (settled alive).noteAll resolutions = settled alive := by
  induction resolutions with
  | nil => rfl
  | cons first rest ih => exact ih

-- Who is waited for is waited for still if their waiting has not ended.
theorem noteAll_waiting {resolutions : List Resolution} {ticket : Nat}
    (h : ticket ∉ resolutions.map (·.ticket)) :
    (waiting ticket).noteAll resolutions = waiting ticket := by
  induction resolutions with
  | nil => rfl
  | cons first rest ih =>
      rw [List.map_cons, List.mem_cons, not_or] at h
      rw [noteAll_cons, note, if_neg h.1, ih h.2]

-- Who is waited for is given up if their waiting has ended without an answer.
theorem noteAll_unanswered {resolutions : List Resolution} {ticket : Nat}
    (h : ticket ∈ resolutions.map (·.ticket))
    (hanswer : ∀ answer, ⟨ticket, some answer⟩ ∉ resolutions) :
    (waiting ticket).noteAll resolutions = settled false := by
  induction resolutions with
  | nil => exact absurd h List.not_mem_nil
  | cons first rest ih =>
      simp only [noteAll_cons, note]
      by_cases hfirst : ticket = first.ticket
      · subst hfirst
        rcases hnone : first.answer with _ | answer
        · rw [if_pos rfl, Option.isSome_none, noteAll_settled]
        · have hmem : ⟨first.ticket, some answer⟩ ∈ first :: rest := by
            rw [← hnone]
            exact List.mem_cons_self
          exact absurd hmem (hanswer answer)
      · rw [if_neg hfirst]
        refine ih ?_ fun answer hmem => hanswer answer (List.mem_cons_of_mem _ hmem)
        exact (List.mem_cons.mp h).resolve_left hfirst

-- Who is waited for was waited for, and their waiting has not ended.
theorem waiting_of_noteAll {resolutions : List Resolution} {inquiry : Inquiry} {ticket : Nat}
    (h : inquiry.noteAll resolutions = waiting ticket) :
    inquiry = waiting ticket ∧ ticket ∉ resolutions.map (·.ticket) := by
  induction resolutions generalizing inquiry with
  | nil => exact ⟨h, List.not_mem_nil⟩
  | cons first rest ih =>
      rcases ih h with ⟨hnote, hrest⟩
      cases inquiry with
      | settled alive => simp [note] at hnote
      | waiting other =>
          simp only [note] at hnote
          split at hnote
          · simp at hnote
          · next hne =>
            rw [waiting.injEq] at hnote
            refine ⟨by rw [hnote], ?_⟩
            rw [List.map_cons, List.mem_cons, not_or]
            exact ⟨hnote ▸ hne, hrest⟩

end Inquiry

-- Each inquiry takes note for itself.
theorem Sweep.entries_foldl_note (sweep : Sweep) (resolutions : List Resolution) :
    (resolutions.foldl note sweep).entries =
      sweep.entries.map fun entry => (entry.1, entry.2.noteAll resolutions) := by
  induction resolutions generalizing sweep with
  | nil => exact (List.map_id' sweep.entries).symm
  | cons first rest ih =>
      rw [List.foldl_cons, ih, note, List.map_map]
      rfl

end Noting

namespace Session

/-- A session after something has happened at its endpoint. -/
def after (session : Session) (event : Endpoint.Event) : Session :=
  { session with
    endpoint := (session.endpoint.step event).2
    sweep := session.sweep.map fun sweep =>
      (session.endpoint.step event).1.foldl Sweep.note sweep }

/-- Nobody is asked twice, and whoever has not answered is waited for. -/
structure Regular (session : Session) : Prop where
  apart : (session.asked.map (·.id)).Nodup
  waited : ∀ sweep, session.sweep = some sweep → ∀ user ticket,
    (user, .waiting ticket) ∈ sweep.entries →
      ∃ waiter ∈ session.endpoint.waiters, waiter.ticket = ticket

/-- A sweep is out in which a user has not answered: their inquiry is as it was, or
    they have been given up. Nobody waits but some who waited then. -/
structure Awaits (session : Session) (user : StaleUser) (inquiry : Inquiry)
    (waiters : List Waiter) : Prop where
  out : ∃ sweep current, session.sweep = some sweep ∧ (user, current) ∈ sweep.entries ∧
    (current = inquiry ∨ current = .settled false)
  among : session.endpoint.waiters ⊆ waiters

variable {session : Session} {event : Endpoint.Event}

-- To take note of answers is not to ask others.
theorem asked_after : (session.after event).asked = session.asked := by
  unfold asked after
  rcases session.sweep with _ | sweep
  · rfl
  · exact sweep.asked_foldl_note _

-- The inquiries after an event.
theorem mem_after {sweep : Sweep} (hsweep : (session.after event).sweep = some sweep) :
    ∃ before, session.sweep = some before ∧ sweep.entries = before.entries.map fun entry =>
      (entry.1, entry.2.noteAll (session.endpoint.step event).1) := by
  rcases Option.map_eq_some_iff.mp hsweep with ⟨before, hbefore, rfl⟩
  exact ⟨before, hbefore, before.entries_foldl_note _⟩

/-- Whatever happens at its endpoint, a session stays regular. -/
theorem Regular.after (h : session.Regular) (event : Endpoint.Event) :
    (session.after event).Regular := by
  refine ⟨by rw [asked_after]; exact h.apart, ?_⟩
  intro sweep hsweep user ticket hentry
  rcases mem_after hsweep with ⟨before, hbefore, hentries⟩
  rw [hentries] at hentry
  rcases List.mem_map.mp hentry with ⟨⟨user', inquiry⟩, hmem, heq⟩
  rcases Prod.mk.inj heq with ⟨rfl, hinquiry⟩
  rcases Inquiry.waiting_of_noteAll hinquiry with ⟨rfl, hopen⟩
  rcases h.waited before hbefore user' ticket hmem with ⟨waiter, hwaiter, rfl⟩
  exact ⟨waiter, session.endpoint.step_keeps hwaiter hopen, rfl⟩

/-- A user who has not answered is waited for, or given up, as long as nobody answers
    for them and no more questions go out. -/
theorem Awaits.after {user : StaleUser} {inquiry : Inquiry} {waiters : List Waiter}
    (h : session.Awaits user inquiry waiters)
    (hanswer : ∀ ticket answer, inquiry = .waiting ticket →
      ⟨ticket, some answer⟩ ∉ (session.endpoint.step event).1)
    (hfewer : (session.endpoint.step event).2.waiters ⊆ session.endpoint.waiters) :
    (session.after event).Awaits user inquiry waiters := by
  refine ⟨?_, List.Subset.trans hfewer h.among⟩
  rcases h.out with ⟨sweep, current, hsweep, hentry, hcurrent⟩
  let resolutions := (session.endpoint.step event).1
  refine ⟨resolutions.foldl Sweep.note sweep, current.noteAll resolutions, ?_, ?_, ?_⟩
  · simp only [Session.after, hsweep, Option.map_some, resolutions]
  · rw [Sweep.entries_foldl_note]
    exact List.mem_map.mpr ⟨(user, current), hentry, rfl⟩
  · rcases hcurrent with rfl | rfl
    · rcases current with ticket | alive
      · by_cases hended : ticket ∈ resolutions.map (·.ticket)
        · exact Or.inr (Inquiry.noteAll_unanswered hended fun answer => hanswer ticket answer rfl)
        · exact Or.inl (Inquiry.noteAll_waiting hended)
      · exact Or.inl (Inquiry.noteAll_settled _ _)
    · exact Or.inr (Inquiry.noteAll_settled _ _)

end Session

namespace Turn

variable {σ : Type} (turn : Turn (Breakable σ))

section Sessions

-- What goes on at the endpoint is all that changes about the session.
theorem session_expire : turn.expire.session = turn.session.after (.expire turn.now) := rfl

theorem session_arrive (peer : SocketAddress) (datagram : Bytes) :
    (turn.arrive peer datagram).session =
      turn.session.after (.datagram peer datagram turn.now) := rfl

-- To send is to change nothing but the endpoint.
theorem session_quiet (event : Endpoint.Event)
    (h : (turn.session.endpoint.step event).1 = []) :
    { turn.session with endpoint := (turn.session.endpoint.step event).2 } =
      turn.session.after event := by
  rw [Session.after, h]
  rcases turn.session with ⟨endpoint, due, _ | sweep⟩
  · rfl
  · rfl

theorem session_inquire (user : StaleUser) :
    (turn.inquire user).2.session = turn.session.after (.request turn.network user.address
      heartbeatPacket turn.timing.heartbeatTimeout turn.now) :=
  turn.session_quiet (.request turn.network user.address heartbeatPacket
    turn.timing.heartbeatTimeout turn.now) rfl

end Sessions

section Regularity

variable {turn}

-- To ask someone is to wait for them, if they can be asked at all.
theorem inquire_waits (turn : Turn (Breakable σ)) (user : StaleUser) {ticket : Nat}
    (h : (turn.inquire user).1 = .waiting ticket) :
    ∃ waiter ∈ (turn.inquire user).2.session.endpoint.waiters, waiter.ticket = ticket := by
  rw [session_inquire]
  rcases turn.session.endpoint.request_cases turn.network user.address heartbeatPacket
    turn.timing.heartbeatTimeout turn.now with ⟨⟨error, herror⟩, -⟩ | ⟨hok, hwaiters, -⟩
  · simp [inquire, herror] at h
  · simp only [inquire, hok, Inquiry.waiting.injEq] at h
    refine ⟨⟨turn.session.endpoint.issued, turn.session.endpoint.nextCorrelation,
      turn.now + turn.timing.heartbeatTimeout⟩, ?_, h⟩
    exact hwaiters ▸ List.mem_append_right _ List.mem_cons_self

-- Whoever is asked and can be asked is waited for, and the others go on being
-- waited for.
theorem inquireAll_waits (users : List StaleUser) (turn : Turn (Breakable σ)) :
    turn.session.endpoint.waiters ⊆ (turn.inquireAll users).2.session.endpoint.waiters ∧
      ∀ user ticket, (user, .waiting ticket) ∈ (turn.inquireAll users).1 →
        ∃ waiter ∈ (turn.inquireAll users).2.session.endpoint.waiters,
          waiter.ticket = ticket := by
  induction users generalizing turn with
  | nil => exact ⟨List.Subset.refl _, fun _ _ h => absurd h List.not_mem_nil⟩
  | cons first rest ih =>
      rcases ih (turn.inquire first).2 with ⟨hkept, hwaits⟩
      have hfirst : turn.session.endpoint.waiters ⊆
          (turn.inquire first).2.session.endpoint.waiters := by
        intro waiter hwaiter
        rw [session_inquire]
        exact turn.session.endpoint.step_keeps hwaiter List.not_mem_nil
      refine ⟨List.Subset.trans hfirst hkept, ?_⟩
      intro user ticket hentry
      rcases List.mem_cons.mp hentry with heq | hentry
      · rcases turn.inquire_waits first (Prod.mk.inj heq).2.symm with ⟨waiter, hwaiter, hticket⟩
        exact ⟨waiter, hkept hwaiter, hticket⟩
      · exact hwaits user ticket hentry

/-- A sweep that begins waits for everybody whom it asks, and asks nobody twice. -/
theorem regular_beginSweep (hids : (turn.service.presence.users.map (·.id)).Nodup) :
    turn.beginSweep.session.Regular := by
  let stale := turn.world.live.presence.stale turn.timing.staleAfter turn.now
  refine ⟨?_, ?_⟩
  · have hasked : turn.beginSweep.session.asked = stale := (inquireAll_asks stale turn).1
    rw [hasked]
    exact Tracker.nodup_stale hids turn.timing.staleAfter turn.now
  · intro sweep hsweep user ticket hentry
    rw [← Option.some.inj hsweep] at hentry
    exact (inquireAll_waits stale turn).2 user ticket hentry

theorem regular_expire (h : turn.session.Regular) : turn.expire.session.Regular :=
  h.after (.expire turn.now)

theorem regular_arrive (h : turn.session.Regular) (peer : SocketAddress) (datagram : Bytes) :
    (turn.arrive peer datagram).session.Regular :=
  h.after (.datagram peer datagram turn.now)

theorem regular_endSweep (h : turn.session.Regular) : turn.endSweep.session.Regular := by
  rw [endSweep]
  split
  · exact h
  · exact ⟨List.nodup_nil, fun _ hsweep => absurd hsweep.symm (Option.some_ne_none _)⟩

variable [Gateway σ]

-- A tick begins a sweep, so it makes no difference what has been before.
theorem regular_tick (hpresence : turn.service.presence.Ascends) : turn.tick.session.Regular := by
  let planned := { turn with session :=
    { turn.session with due := nextDue turn.period turn.session.due turn.now } }
  have hplanned : planned.broadcast.service.presence.Ascends :=
    (broadcast_leads planned).ascends hpresence
  have hbegin : planned.broadcast.beginSweep.session.Regular :=
    regular_beginSweep hplanned.nodup_ids
  rw [tick]
  exact regular_endSweep (regular_expire hbegin)

theorem regular_tickWhileDue (count : Nat) (h : turn.session.Regular)
    (hpresence : turn.service.presence.Ascends) : (turn.tickWhileDue count).session.Regular := by
  induction count generalizing turn with
  | zero => exact h
  | succ count ih =>
      rw [tickWhileDue]
      split
      · exact ih (regular_tick hpresence) (turn.tick_leads.ascends hpresence)
      · exact h

/-- Doing all that is due leaves a regular session. -/
theorem regular_settle (h : turn.session.Regular) (hpresence : turn.service.presence.Ascends) :
    turn.settle.session.Regular := by
  have hend : turn.expire.endSweep.service.presence.Ascends := by
    refine (endSweep_leads turn.expire).ascends ?_
    rw [service_expire]
    exact hpresence
  exact regular_tickWhileDue _ (regular_endSweep (regular_expire h)) hend

-- To handle a packet is to change nothing about the session.
theorem session_handle (turn : Turn (Breakable σ)) (packet : Inbound) :
    (turn.handle packet).session = turn.session := by
  rcases hdispatch : dispatch .standard turn.server packet.peer packet.payload turn.now
    turn.world with ⟨outcome, world⟩
  rcases hanswer : outcome.answer? with _ | answer
  · simp only [handle, hdispatch, hanswer]
  · simp only [handle, hdispatch, hanswer]
    rfl

theorem session_handleNext (turn : Turn (Breakable σ)) :
    turn.handleNext.session = turn.session.after .take := by
  rw [← session_quiet turn .take rfl, Endpoint.step]
  rcases hinbox : turn.session.endpoint.inbox with _ | ⟨packet, rest⟩
  · simp only [handleNext_nil hinbox, Endpoint.take, hinbox]
  · simp only [handleNext_cons hinbox, session_handle, Endpoint.take, hinbox]
    rfl

/-- A packet that is taken in leaves a regular session. -/
theorem regular_handleNext (h : turn.session.Regular) : turn.handleNext.session.Regular := by
  rw [session_handleNext]
  exact h.after .take

end Regularity

section Waiting

variable {turn} {user : StaleUser} {inquiry : Inquiry} {waiters : List Waiter}

-- Deadlines that have come are no answers.
theorem expire_awaits (h : turn.session.Awaits user inquiry waiters) :
    turn.expire.session.Awaits user inquiry waiters := by
  rw [session_expire]
  refine h.after ?_ ?_
  · intro ticket answer _ hmem
    rcases Endpoint.step_answered hmem with ⟨_, _, _, _, _, heq, -⟩
    cases heq
  · exact (turn.session.endpoint.expire_fewer turn.now).subset

-- A sweep in which somebody is waited for stays out, and no tick comes.
theorem settle_of_open {sweep : Sweep} (hsweep : turn.expire.session.sweep = some sweep)
    (hopen : sweep.results? = none) : turn.settle = turn.expire := by
  have hend : turn.expire.endSweep = turn.expire := by
    rw [endSweep, hsweep, Option.bind_some, hopen]
  rw [settle, hend, tickWhileDue, hsweep]
  rfl

/-- A datagram that completes no answer with their number leaves a user waited
    for. -/
theorem arrive_awaits (h : turn.session.Awaits user inquiry waiters) {peer : SocketAddress}
    {datagram : Bytes} (hanswer : ∀ waiter ∈ waiters, inquiry = .waiting waiter.ticket →
      ∀ frame, turn.session.endpoint.completes peer datagram turn.now = some frame →
        frame.kind = .response → frame.correlation ≠ waiter.correlation) :
    (turn.arrive peer datagram).session.Awaits user inquiry waiters := by
  rw [session_arrive]
  refine h.after ?_ ?_
  · intro ticket answer hinquiry hmem
    rcases Endpoint.step_answered hmem with
      ⟨source, bytes, now, frame, waiter, heq, hframe, hkind, -, hwaiter, rfl, hnumber⟩
    cases heq
    exact hanswer waiter (h.among hwaiter) hinquiry frame hframe hkind hnumber.symm
  · exact (turn.session.endpoint.receive_fewer peer datagram turn.now).subset

variable [Gateway σ]

-- A packet that is taken in answers nothing.
theorem handleNext_awaits (h : turn.session.Awaits user inquiry waiters) :
    turn.handleNext.session.Awaits user inquiry waiters := by
  rw [session_handleNext]
  refine h.after (fun _ _ _ => List.not_mem_nil) ?_
  rw [Endpoint.step, turn.session.endpoint.take_waiters.1]
  exact List.Subset.refl _

/-- A user who is waited for and has not been heard from is waited for still once all
    that is due is done, or the sweep has taken them offline. It has done so at the
    latest when all deadlines have come. -/
theorem settle_awaits (hregular : turn.session.Regular)
    (h : turn.session.Awaits user inquiry waiters) (hopen : inquiry.alive? ≠ some true)
    (hunchanged : isUnchanged turn.service.presence user = true) :
    (turn.settle.session.Awaits user inquiry waiters ∧
      turn.settle.service.presence = turn.service.presence ∧
      ∃ waiter ∈ waiters, turn.now < waiter.deadline) ∨
    turn.settle.service.presence.Gone user.id := by
  have hlater := expire_awaits h
  rcases hlater.out with ⟨sweep, current, hsweep, hentry, hcurrent⟩
  rcases hresults : sweep.results? with _ | results
  · -- Somebody is waited for, so their deadline is yet to come.
    refine Or.inl ?_
    rw [settle_of_open hsweep hresults, service_expire]
    refine ⟨hlater, rfl, ?_⟩
    have hsome : ¬ ∀ entry ∈ sweep.entries, entry.2.alive?.isSome = true := by
      intro hall
      rw [Sweep.results?_eq_some_iff.mpr ⟨hall, rfl⟩] at hresults
      exact Option.some_ne_none _ hresults
    push Not at hsome
    rcases hsome with ⟨⟨other, ticket | alive⟩, hother, hwaiting⟩
    · rcases (regular_expire hregular).waited sweep hsweep other ticket hother with
        ⟨waiter, hwaiter, -⟩
      have hwaiter' : waiter ∈ (turn.session.endpoint.expire turn.now).2.waiters := hwaiter
      rw [Endpoint.expire_waiters] at hwaiter'
      refine ⟨waiter, hlater.among hwaiter, ?_⟩
      have hlate := (List.mem_filter.mp hwaiter').2
      simpa using hlate
    · simp [Inquiry.alive?] at hwaiting
  · -- All results are in, and the one of the user is that they have been given up.
    refine Or.inr ((tickWhileDue_leads _ turn.expire.endSweep).gone ?_)
    rcases Sweep.results?_eq_some_iff.mp hresults with ⟨hall, hmap⟩
    have hgiven : current.alive? = some false := by
      rcases hcurrent with rfl | rfl
      · rcases halive : current.alive? with _ | _ | _
        · have hsome := hall (user, current) hentry
          rw [halive] at hsome
          exact absurd hsome Bool.false_ne_true
        · rfl
        · exact absurd halive hopen
      · rfl
    have hmem : (user, false) ∈ results := by
      rw [hmap]
      exact List.mem_map.mpr ⟨(user, current), hentry, by rw [hgiven, Option.getD_some]⟩
    have hids : (results.map fun result => result.1.id).Nodup := by
      have hasked : turn.expire.session.asked = sweep.asked := by rw [Session.asked, hsweep]
      have hapart := (regular_expire hregular).apart
      rw [hasked, Sweep.asked, List.map_map] at hapart
      rw [hmap, List.map_map]
      exact hapart
    have hend : turn.expire.endSweep.service.presence =
        (applyHeartbeats turn.now results turn.service.presence).1 := by
      rw [endSweep, hsweep, Option.bind_some, hresults]
      rfl
    rw [isUnchanged] at hunchanged
    split at hunchanged
    · next known hknown =>
      rw [Tracker.Gone, hend, get?_applyHeartbeats turn.now results hids hmem, hknown,
        Option.map_some, TrackedUser.judged_silent turn.now hunchanged]
      exact ⟨_, rfl, rfl, rfl, rfl⟩
    · exact absurd hunchanged Bool.false_ne_true

end Waiting

end Turn

end ChatHost
