import ChatHost.Proofs.Server.PresenceInvariant

/-!
# Turns are Runs

What a hosted server does at one instant is a run of the service that it is.

A turn knows more than a service does: frames, waiters, datagrams that go out,
and which of its questions have been answered. None of this reaches the world
but by way of an occurrence. A datagram that completes a packet is a packet
coming in; one that answers a question is nothing until the sweep ends, and then
it is a result; and most of what an endpoint does is nothing at all
(`service_withEndpoint`, `service_note`).

So what holds of a service after every history holds of a hosted server at every
instant, whatever reaches its socket and whenever its ticks fall due. Time goes
by between turns and never during one.

A datagram that comes in is no occurrence at all; what it brings waits in the inbox
(`service_arrive`). When a packet is taken from there, it is known which run that
is: the packet, if there is one (`service_handleNext`). Of a tick it is only known
that no packet comes in meanwhile.

A server that has nothing else to do takes in at once what comes in, and does what is
due. That is nothing but one deed after the other at one instant, since no deed looks
back at the datagrams that have been sent before it (`Proceeds`, `Hosted.act_comp`).

## Main definitions

* `Service.Leads`: One state of a service leads to another in no time.
* `Turn.service`, `Hosted.service`: The service that a server is.
* `Turn.Proceeds`: A deed goes on from where a turn is, whatever has been sent.
* `Hosted.turn`: The turn of a hosted server.

## Theorems

* `Turn.service_handleNext`: To take a packet is a packet coming in.
* `Turn.tick_leads`: A tick is a run, up to the point where it has to wait.
* `Turn.settle_leads`: So is everything else that a turn does.
* `Turn.Proceeds.handleNext`, `Turn.Proceeds.settle`: Deeds go on from where a turn is.
* `Hosted.act_comp`: One deed after the other.
* `Hosted.arrive_leads`, `Hosted.handleNext_leads`, `Hosted.settle_leads`: What a hosted
  server does is a run.
-/

namespace ChatHost

/-- Whether it is part of a tick. -/
def Occurrence.isTick : Occurrence → Bool
  | broadcast _ | ask _ | settle _ => true
  | _ => false

/-- A packet in the inbox is one that comes in. -/
def Inbound.occurrence (packet : Inbound) : Occurrence := .packet packet.peer packet.payload

namespace Service

variable {σ : Type} [Gateway σ] {among : Occurrence → Bool}

/-- One state of a service leads to another in no time, by occurrences of some
    kind. -/
structure Leads (among : Occurrence → Bool) (s s' : Service σ) : Prop where
  server : s'.server = s.server
  clock : s'.clock = s.clock
  history : ∃ history, (∀ o ∈ history, among o = true) ∧ s' = s.run history

namespace Leads

theorem refl (s : Service σ) : Leads among s s :=
  ⟨rfl, rfl, [], fun _ h => absurd h List.not_mem_nil, rfl⟩

-- A step is a run of its own.
theorem of_step {s s' : Service σ} (o : Occurrence) (ho : among o = true) (h : s' = s.step o)
    (hclock : s'.clock = s.clock) : Leads among s s' := by
  refine ⟨h ▸ s.step_server o, hclock, [o], ?_, h⟩
  intro p hp
  rw [List.mem_singleton.mp hp]
  exact ho

theorem trans {a b c : Service σ} (hab : Leads among a b) (hbc : Leads among b c) :
    Leads among a c := by
  rcases hab.history with ⟨first, hfirst, rfl⟩
  rcases hbc.history with ⟨later, hlater, rfl⟩
  refine ⟨hbc.server.trans hab.server, hbc.clock.trans hab.clock, first ++ later, ?_, ?_⟩
  · exact fun o ho => (List.mem_append.mp ho).elim (hfirst o) (hlater o)
  · rw [run_append]

theorem mono {wider : Occurrence → Bool} (hwider : ∀ o, among o = true → wider o = true)
    {s s' : Service σ} (h : Leads among s s') : Leads wider s s' := by
  rcases h.history with ⟨history, hhistory, hrun⟩
  exact ⟨h.server, h.clock, history, fun o ho => hwider o (hhistory o ho), hrun⟩

-- Packets come in without time going by.
theorem of_packets {history : List Occurrence} (h : ∀ o ∈ history, o.isPacket = true)
    (s : Service σ) : Leads Occurrence.isPacket s (s.run history) := by
  induction history generalizing s with
  | nil => exact refl s
  | cons o rest ih =>
      have ho := h o List.mem_cons_self
      have hclock : (s.step o).clock = s.clock := by
        cases o with
        | packet peer payload => rfl
        | _ => simp [Occurrence.isPacket] at ho
      exact (of_step o ho rfl hclock).trans (ih (fun p hp => h p (List.mem_cons_of_mem _ hp)) _)

-- What is sound leads to what is sound.
theorem sound [LawfulGateway σ] {s s' : Service σ} (h : Leads among s s') (hs : s.Sound) :
    s'.Sound := by
  rcases h.history with ⟨history, -, rfl⟩
  exact hs.run history

end Leads

end Service

namespace Sweep

/-- The users who are being asked. -/
def asked (sweep : Sweep) : List StaleUser := sweep.entries.map Prod.fst

-- To take note of answers is not to ask others.
theorem asked_foldl_note (sweep : Sweep) (resolutions : List Resolution) :
    (resolutions.foldl note sweep).asked = sweep.asked := by
  induction resolutions generalizing sweep with
  | nil => rfl
  | cons resolution rest ih =>
      rw [List.foldl_cons, ih, asked, note, List.map_map]
      rfl

/-- There are results once nobody is waited for, and then there is one for each
    user who was asked, in order. -/
theorem results?_eq_some_iff {sweep : Sweep} {results : List (StaleUser × Bool)} :
    sweep.results? = some results ↔ (∀ entry ∈ sweep.entries, entry.2.alive?.isSome = true) ∧
      results = sweep.entries.map fun entry => (entry.1, entry.2.alive?.getD false) := by
  rcases sweep with ⟨entries⟩
  induction entries generalizing results with
  | nil =>
      rw [results?, List.mapM_nil]
      simp only [Option.pure_def, Option.some.injEq, List.map_nil, List.not_mem_nil,
        IsEmpty.forall_iff, implies_true, true_and]
      exact eq_comm
  | cons entry rest ih =>
      rcases entry with ⟨user, inquiry⟩
      have hrest := @ih
      simp only [results?] at hrest
      rcases halive : inquiry.alive? with _ | alive
      · simp [results?, halive]
      · simp only [results?, List.mapM_cons, halive, Option.map_some, Option.bind_eq_bind,
          Option.bind_some, Option.pure_def, Option.bind_eq_some_iff, hrest, List.forall_mem_cons,
          List.map_cons, Option.isSome_some, Option.getD_some, Option.some.injEq, true_and]
        constructor
        · rintro ⟨later, ⟨hall, rfl⟩, rfl⟩
          exact ⟨hall, rfl⟩
        · rintro ⟨hall, rfl⟩
          exact ⟨_, ⟨hall, rfl⟩, rfl⟩

theorem results?_eq_zip {sweep : Sweep} {results : List (StaleUser × Bool)}
    (h : sweep.results? = some results) : results = sweep.asked.zip (results.map Prod.snd) := by
  have husers : results.map Prod.fst = sweep.asked := by
    rw [(results?_eq_some_iff.mp h).2, List.map_map]
    rfl
  rw [← husers]
  exact List.zip_of_prod rfl rfl

end Sweep

namespace Session

/-- The users who are being asked, if a sweep is out. -/
def asked (session : Session) : List StaleUser :=
  match session.sweep with
  | some sweep => sweep.asked
  | none => []

end Session

namespace Turn

open Service

variable {σ : Type}

/-- The service that a running server is. -/
def service (turn : Turn (Breakable σ)) : Service σ :=
  { server := turn.server, clock := turn.now, world := turn.world, asked := turn.session.asked }

-- What goes on at the endpoint is nothing to the service.
theorem service_withEndpoint (turn : Turn (Breakable σ)) (endpoint : Endpoint)
    (sent : List Datagram) : (turn.withEndpoint endpoint sent).service = turn.service := rfl

theorem service_note (turn : Turn (Breakable σ)) (resolutions : List Resolution) :
    (turn.note resolutions).service = turn.service := by
  have hasked : (turn.note resolutions).session.asked = turn.session.asked := by
    unfold Session.asked
    rw [note]
    rcases turn.session.sweep with _ | sweep
    · rfl
    · exact sweep.asked_foldl_note resolutions
  unfold service
  rw [hasked]
  rfl

theorem service_expire (turn : Turn (Breakable σ)) : turn.expire.service = turn.service :=
  (service_note _ _).trans (service_withEndpoint _ _ _)

/-- What comes in waits, and is nothing to the service until it is taken. -/
theorem service_arrive (turn : Turn (Breakable σ)) (peer : SocketAddress) (datagram : Bytes) :
    (turn.arrive peer datagram).service = turn.service := by
  rw [arrive, service_note, service_withEndpoint]

-- Whatever the datagrams that go out, they are nothing to the service.
theorem service_foldl_push (deliveries : List (SocketAddress × Bytes))
    (turn : Turn (Breakable σ)) : (deliveries.foldl push turn).service = turn.service := by
  induction deliveries generalizing turn with
  | nil => rfl
  | cons delivery rest ih =>
      rw [List.foldl_cons, ih, push]
      exact service_withEndpoint _ _ _

-- Everybody is asked who is to be, and asking is nothing to the service.
theorem inquireAll_asks (users : List StaleUser) (turn : Turn (Breakable σ)) :
    (turn.inquireAll users).1.map Prod.fst = users ∧
      (turn.inquireAll users).2.service = turn.service := by
  induction users generalizing turn with
  | nil => exact ⟨rfl, rfl⟩
  | cons user rest ih =>
      rcases ih (turn.inquire user).2 with ⟨husers, hservice⟩
      refine ⟨?_, ?_⟩
      · rw [inquireAll, List.map_cons, husers]
      · rw [inquireAll, hservice]
        exact service_withEndpoint _ _ _

variable [Gateway σ]

-- A packet that is handled is a packet that comes in.
theorem service_handle (turn : Turn (Breakable σ)) (packet : Inbound) :
    (turn.handle packet).service = turn.service.step (.packet packet.peer packet.payload) := by
  rcases hdispatch : dispatch .standard turn.server packet.peer packet.payload turn.now
    turn.world with ⟨outcome, world⟩
  have hworld : (turn.service.step (.packet packet.peer packet.payload)).world = world :=
    congrArg Prod.snd hdispatch
  rw [handle, hdispatch, ← hworld]
  rcases hanswer : outcome.answer? with _ | answer
  · simp only [hanswer]
    rfl
  · simp only [hanswer]
    rfl

-- Nothing is taken from an inbox without packets.
theorem handleNext_nil {turn : Turn (Breakable σ)} (hinbox : turn.session.endpoint.inbox = []) :
    turn.handleNext = turn := by
  simp only [handleNext, Endpoint.take, hinbox]
  split
  · next hempty =>
    split at hempty <;> simp at hempty
  · rfl

-- The packet that is taken is the one that has waited longest.
theorem handleNext_cons {turn : Turn (Breakable σ)} {packet : Inbound} {rest : List Inbound}
    (hinbox : turn.session.endpoint.inbox = packet :: rest) :
    turn.handleNext =
      (turn.withEndpoint { turn.session.endpoint with inbox := rest } []).handle packet := by
  simp only [handleNext, Endpoint.take, hinbox]

/-- A packet that is taken is one that comes in. -/
theorem service_handleNext (turn : Turn (Breakable σ)) :
    turn.handleNext.service =
      turn.service.run ((turn.session.endpoint.inbox.take 1).map Inbound.occurrence) := by
  rcases hinbox : turn.session.endpoint.inbox with _ | ⟨packet, rest⟩
  · rw [handleNext_nil hinbox]
    rfl
  · rw [handleNext_cons hinbox, service_handle]
    rfl

-- Emptying the queue is one step. Which pushes go out makes no difference to
-- the service.
theorem broadcast_leads (turn : Turn (Breakable σ)) :
    Leads Occurrence.isTick turn.service turn.broadcast.service := by
  have hstep : turn.broadcast.service = turn.service.step (.broadcast fun _ _ => true) := by
    rw [broadcast, service_foldl_push]
    rfl
  exact .of_step _ rfl hstep (by rw [hstep]; rfl)

theorem beginSweep_leads (turn : Turn (Breakable σ)) :
    Leads Occurrence.isTick turn.service turn.beginSweep.service := by
  rcases inquireAll_asks (turn.world.live.presence.stale turn.timing.staleAfter turn.now) turn with
    ⟨husers, hservice⟩
  have hstep : turn.beginSweep.service = turn.service.step (.ask turn.timing.staleAfter) := by
    have hserver := congrArg Service.server hservice
    have hclock := congrArg Service.clock hservice
    have hworld := congrArg Service.world hservice
    simp only [service] at hserver hclock hworld
    simp only [service, beginSweep, Session.asked, Sweep.asked, husers, hserver, hclock, hworld]
    rfl
  exact .of_step _ rfl hstep (by rw [hstep]; rfl)

-- A sweep that ends applies a result for each user who was asked; one that has
-- to wait does nothing.
theorem endSweep_leads (turn : Turn (Breakable σ)) :
    Leads Occurrence.isTick turn.service turn.endSweep.service := by
  rw [endSweep]
  split
  · exact .refl _
  · next results hresults =>
    rcases Option.bind_eq_some_iff.mp hresults with ⟨sweep, hsweep, hall⟩
    have hasked : turn.session.asked = sweep.asked := by rw [Session.asked, hsweep]
    have hzip : turn.service.asked.zip (results.map Prod.snd) = results := by
      rw [service, hasked]
      exact (Sweep.results?_eq_zip hall).symm
    refine .of_step (.settle (results.map Prod.snd)) rfl ?_ rfl
    rw [step, hzip]
    rfl

/-- A tick is a run, up to the point where it has to wait. -/
theorem tick_leads (turn : Turn (Breakable σ)) :
    Leads Occurrence.isTick turn.service turn.tick.service := by
  let planned := { turn with session :=
    { turn.session with due := nextDue turn.period turn.session.due turn.now } }
  have hplanned : turn.service = planned.service := rfl
  have hexpire := service_expire planned.broadcast.beginSweep
  have hend := endSweep_leads planned.broadcast.beginSweep.expire
  rw [hexpire] at hend
  rw [hplanned]
  exact (broadcast_leads planned).trans ((beginSweep_leads _).trans hend)

theorem tickWhileDue_leads (count : Nat) (turn : Turn (Breakable σ)) :
    Leads Occurrence.isTick turn.service (turn.tickWhileDue count).service := by
  induction count generalizing turn with
  | zero => exact .refl _
  | succ count ih =>
      rw [tickWhileDue]
      split
      · exact turn.tick_leads.trans (ih turn.tick)
      · exact .refl _

/-- Doing all that is due is a run. -/
theorem settle_leads (turn : Turn (Breakable σ)) :
    Leads Occurrence.isTick turn.service turn.settle.service := by
  have hend := endSweep_leads turn.expire
  rw [service_expire] at hend
  exact hend.trans (tickWhileDue_leads _ _)

-- What comes in does nothing before it is taken.
theorem arrive_leads (turn : Turn (Breakable σ)) (among : Occurrence → Bool)
    (peer : SocketAddress) (datagram : Bytes) :
    Leads among turn.service (turn.arrive peer datagram).service :=
  turn.service_arrive peer datagram ▸ .refl _

/-- Taking in a packet is a run, whatever is in it. -/
theorem handleNext_leads (turn : Turn (Breakable σ)) :
    Leads Occurrence.isPacket turn.service turn.handleNext.service := by
  rw [service_handleNext]
  refine .of_packets ?_ _
  intro o ho
  rcases List.mem_map.mp ho with ⟨packet, -, rfl⟩
  rfl

end Turn

namespace Turn

variable {σ : Type}

/-- The turn, with datagrams that went out before. -/
def preceded (turn : Turn σ) (earlier : List Datagram) : Turn σ :=
  { turn with sent := earlier ++ turn.sent }

/-- What is settled before a turn begins. -/
def circumstances (turn : Turn σ) : ServerId × Timing × Network × Instant :=
  (turn.server, turn.timing, turn.network, turn.now)

/-- A deed goes on from where a turn is: it leaves the circumstances as they are, and does
    not look back at what has been sent. -/
structure Proceeds (deed : Turn σ → Turn σ) : Prop where
  circumstances : ∀ turn, (deed turn).circumstances = turn.circumstances
  preceded : ∀ turn earlier, deed (turn.preceded earlier) = (deed turn).preceded earlier

theorem withEndpoint_preceded (turn : Turn σ) (earlier : List Datagram) (endpoint : Endpoint)
    (sent : List Datagram) :
    (turn.preceded earlier).withEndpoint endpoint sent =
      (turn.withEndpoint endpoint sent).preceded earlier := by
  simp only [withEndpoint, preceded, List.append_assoc]

namespace Proceeds

-- One deed after the other is a deed.
theorem comp {first second : Turn σ → Turn σ} (hsecond : Proceeds second)
    (hfirst : Proceeds first) : Proceeds fun turn => second (first turn) where
  circumstances turn := (hsecond.circumstances _).trans (hfirst.circumstances turn)
  preceded turn earlier := by rw [hfirst.preceded, hsecond.preceded]

theorem refl : Proceeds (id : Turn σ → Turn σ) := ⟨fun _ => rfl, fun _ _ => rfl⟩

-- So are deeds in a row.
theorem foldl {α : Type} {deed : Turn σ → α → Turn σ} (h : ∀ a, Proceeds fun turn => deed turn a)
    (row : List α) : Proceeds fun turn => row.foldl deed turn := by
  induction row with
  | nil => exact refl
  | cons a rest ih => exact ih.comp (h a)

theorem expire : Proceeds (Turn.expire : Turn σ → Turn σ) where
  circumstances _ := rfl
  preceded turn earlier := by
    simp only [Turn.expire, Turn.note, withEndpoint, Turn.preceded, List.append_assoc]

theorem push (delivery : SocketAddress × Bytes) :
    Proceeds fun turn : Turn σ => turn.push delivery where
  circumstances _ := rfl
  preceded turn earlier := turn.withEndpoint_preceded earlier _ _

theorem broadcast : Proceeds (Turn.broadcast : Turn σ → Turn σ) where
  circumstances turn := (foldl push turn.world.live.deliveries).circumstances _
  preceded turn earlier := (foldl push turn.world.live.deliveries).preceded
    { turn with world := { turn.world with live := turn.world.live.drained } } earlier

-- To ask is the same, whatever has been sent.
theorem inquireAll (users : List StaleUser) (turn : Turn σ) :
    (turn.inquireAll users).2.circumstances = turn.circumstances ∧
      ∀ earlier, (turn.preceded earlier).inquireAll users =
        ((turn.inquireAll users).1, (turn.inquireAll users).2.preceded earlier) := by
  induction users generalizing turn with
  | nil => exact ⟨rfl, fun _ => rfl⟩
  | cons user rest ih =>
      rcases ih (turn.inquire user).2 with ⟨hsame, hlater⟩
      have hinquire : ∀ earlier, (turn.preceded earlier).inquire user =
          ((turn.inquire user).1, (turn.inquire user).2.preceded earlier) :=
        fun earlier => Prod.ext rfl (turn.withEndpoint_preceded earlier _ _)
      refine ⟨hsame, fun earlier => ?_⟩
      simp only [Turn.inquireAll, hinquire, hlater]

theorem beginSweep : Proceeds (Turn.beginSweep : Turn σ → Turn σ) where
  circumstances turn := (inquireAll _ turn).1
  preceded turn earlier := by
    have hasked := (inquireAll (turn.world.live.presence.stale turn.timing.staleAfter turn.now)
      turn).2 earlier
    simp only [Turn.beginSweep, Turn.preceded] at hasked ⊢
    simp only [hasked]

theorem endSweep : Proceeds (Turn.endSweep : Turn σ → Turn σ) where
  circumstances turn := by
    rw [Turn.endSweep]
    split <;> rfl
  preceded turn earlier := by
    simp only [Turn.endSweep, Turn.preceded]
    split <;> rfl

theorem tick : Proceeds (Turn.tick : Turn σ → Turn σ) := by
  have hplanned : Proceeds fun turn : Turn σ => { turn with session :=
      { turn.session with due := nextDue turn.period turn.session.due turn.now } } :=
    ⟨fun _ => rfl, fun _ _ => rfl⟩
  have hall := endSweep.comp (expire.comp (beginSweep.comp (broadcast.comp hplanned)))
  exact ⟨fun turn => hall.circumstances turn, fun turn earlier => hall.preceded turn earlier⟩

theorem tickWhileDue (count : Nat) : Proceeds fun turn : Turn σ => turn.tickWhileDue count := by
  induction count with
  | zero => exact refl
  | succ count ih =>
      have hnext := ih.comp tick
      refine ⟨fun turn => ?_, fun turn earlier => ?_⟩
      · rw [Turn.tickWhileDue]
        split
        · exact hnext.circumstances turn
        · rfl
      · rw [Turn.tickWhileDue, Turn.tickWhileDue]
        have hsession : (turn.preceded earlier).session = turn.session := rfl
        have hnow : (turn.preceded earlier).now = turn.now := rfl
        rw [hsession, hnow]
        split
        · exact hnext.preceded turn earlier
        · rfl

theorem settle : Proceeds (Turn.settle : Turn σ → Turn σ) :=
  (tickWhileDue _).comp (endSweep.comp expire)

theorem arrive (peer : SocketAddress) (datagram : Bytes) :
    Proceeds fun turn : Turn σ => turn.arrive peer datagram where
  circumstances _ := rfl
  preceded turn earlier := by
    simp only [Turn.arrive, Turn.note, withEndpoint, Turn.preceded, List.append_assoc]

variable [Gateway σ]

theorem handle (packet : Inbound) : Proceeds fun turn : Turn σ => turn.handle packet where
  circumstances turn := by
    simp only [Turn.handle]
    split <;> rfl
  preceded turn earlier := by
    simp only [Turn.handle, Turn.preceded]
    split
    · rfl
    · simp only [withEndpoint, List.append_assoc]

theorem handleNext : Proceeds (Turn.handleNext : Turn σ → Turn σ) where
  circumstances turn := by
    rw [Turn.handleNext]
    split
    · exact (handle _).circumstances _
    · rfl
  preceded turn earlier := by
    rw [Turn.handleNext, Turn.handleNext]
    have hsession : (turn.preceded earlier).session = turn.session := rfl
    rw [hsession]
    split
    · rw [withEndpoint_preceded]
      exact (handle _).preceded _ earlier
    · rfl

theorem handleUpTo (count : Nat) : Proceeds fun turn : Turn σ => turn.handleUpTo count := by
  induction count with
  | zero => exact refl
  | succ count ih => exact ih.comp handleNext

end Proceeds

end Turn

namespace Hosted

open Service

variable {σ : Type} (h : Hosted) (network : Network) (store : Breakable σ) (now : Instant)

/-- The service that a hosted server is. One that is stopped asks nobody. -/
def service : Service σ :=
  { server := h.id
    clock := now
    world := { store := store, live := h.live }
    asked := (h.session.map Session.asked).getD [] }

/-- The turn of a hosted server that runs. -/
def turn (session : Session) : Turn (Breakable σ) :=
  { server := h.id, timing := h.settings.timing, network, now, world := ⟨store, h.live⟩, session }

variable {h}

theorem service_turn {session : Session} (hsession : h.session = some session) :
    (h.turn network store now session).service = h.service store now := by
  rw [service, hsession]
  rfl

-- What a server that runs does at one instant is what its turn does.
theorem act_running {session : Session} (hsession : h.session = some session)
    (deed : Turn (Breakable σ) → Turn (Breakable σ)) :
    h.act network store now deed =
      ((deed (h.turn network store now session)).sent,
        (deed (h.turn network store now session)).world.store,
        { h with
          live := (deed (h.turn network store now session)).world.live
          session := some (deed (h.turn network store now session)).session }) := by
  rw [act, hsession]
  rfl

-- A server that does not run does nothing.
theorem act_stopped (hsession : h.session = none)
    (deed : Turn (Breakable σ) → Turn (Breakable σ)) :
    h.act network store now deed = ([], store, h) := by
  rw [act, hsession]

variable (h)

-- To do nothing is to change nothing.
theorem act_id : h.act network store now (fun turn => turn) = ([], store, h) := by
  rcases hsession : h.session with _ | session
  · exact act_stopped network store now hsession _
  · rw [act_running network store now hsession]
    rcases h with ⟨id, settings, live, _⟩
    cases hsession
    rfl

/-- One deed after the other at one instant: the second finds what the first has left. -/
theorem act_comp {first second : Turn (Breakable σ) → Turn (Breakable σ)}
    (hfirst : Turn.Proceeds first) (hsecond : Turn.Proceeds second) :
    h.act network store now (fun turn => second (first turn)) =
      let (sent, between, h') := h.act network store now first
      let (later, after, h'') := h'.act network between now second
      (sent ++ later, after, h'') := by
  rcases hsession : h.session with _ | session
  · simp only [act_stopped network store now hsession, List.append_nil]
  · have hsame := hfirst.circumstances (h.turn network store now session)
    rw [act_running network store now hsession, act_running network store now hsession]
    rcases hturn : first (h.turn network store now session) with
      ⟨server, timing, network', now', world, session', sent⟩
    rw [hturn] at hsame
    simp only [Turn.circumstances, turn, Prod.mk.injEq] at hsame
    rcases hsame with ⟨rfl, rfl, rfl, rfl⟩
    -- What has been sent by then comes before what is sent later.
    have hpreceded := hsecond.preceded
      ⟨h.id, h.settings.timing, network', now', world, session', []⟩ sent
    rw [Turn.preceded, List.append_nil] at hpreceded
    simp only [hpreceded]
    rfl

variable [Gateway σ]

-- It is a run, if what turns do is one.
theorem act_leads {among : Occurrence → Bool} (deed : Turn (Breakable σ) → Turn (Breakable σ))
    (hdeed : ∀ turn, Leads among turn.service (deed turn).service) :
    Leads among (h.service store now)
      ((h.act network store now deed).2.2.service (h.act network store now deed).2.1 now) := by
  rcases hsession : h.session with _ | session
  · rw [act_stopped network store now hsession]
    exact .refl _
  · have hleads := hdeed (h.turn network store now session)
    rw [act_running network store now hsession, ← service_turn network store now hsession]
    -- A turn keeps its server and its instant, which are those of the server.
    have hserver := hleads.server
    have hclock := hleads.clock
    simp only [Turn.service] at hserver hclock
    refine ⟨rfl, rfl, ?_⟩
    rcases hleads.history with ⟨history, hamong, hhistory⟩
    refine ⟨history, hamong, ?_⟩
    rw [← hhistory, Turn.service, hserver, hclock]
    rfl

theorem arrive_leads (among : Occurrence → Bool) (peer : SocketAddress) (datagram : Bytes) :
    Leads among (h.service store now)
      ((h.arrive network store now peer datagram).2.2.service
        (h.arrive network store now peer datagram).2.1 now) :=
  h.act_leads network store now _ fun turn => turn.arrive_leads among peer datagram

theorem handleNext_leads :
    Leads Occurrence.isPacket (h.service store now)
      ((h.handleNext network store now).2.2.service (h.handleNext network store now).2.1 now) :=
  h.act_leads network store now _ Turn.handleNext_leads

theorem settle_leads :
    Leads Occurrence.isTick (h.service store now)
      ((h.settle network store now).2.2.service (h.settle network store now).2.1 now) :=
  h.act_leads network store now _ Turn.settle_leads

end Hosted

end ChatHost
