import ChatHost.Proofs.Server.Courses
import ChatHost.Proofs.Store.Lawful
import ChatHost.Server.Hosted
import ChatHost.Server.Stage

/-!
# Services

A hosted server as a machine: a state, and what can come to pass at it.

A server handles packets one at a time, and a tick touches its state at three
moments only: when it empties the queue, when it notes who has been silent, and
when it applies the results of asking them. Between any two of these moments
time may pass and packets may come in. So every history of a server is a list
of occurrences, whatever the order in which they came, and `Service.run` tells
what becomes of the server. Everything that depends on the peers is part of the
occurrence: which sends succeed, and who answers when asked.

An operator may give roles (`grant`). Other servers share the store, and what
they do to it is an occurrence too (`elsewhere`), as is the beginning or the end
of a failure of the store (`outage`).

The machine allows more than a server does: it need not begin a tick before it
ends one. What holds of all its runs holds of those of a server, and
`Stage.tick_runs` finds the run that a tick is.

## Main definitions

* `Occurrence`: Something that comes to pass at a server.
* `Service`: A server that runs, with its clock and its world.
* `Service.step`, `Service.run`: What becomes of it.
* `Service.answer?`, `Service.attempts`, `Service.drained`, `Service.accepted`:
  What can be seen of an occurrence.
* `collect`: What can be seen of a run.
* `Service.Started`: A server that has just started.

## Theorems

* `run_invariant`: What every step keeps, every run keeps.
* `Service.packet_handled`, `Service.packet_course`: What is behind a packet that is
  handled.
* `collect_append`: What is seen of a run is seen of its parts.
* `Stage.receive_step`, `Stage.tick_runs`: What happens on a stage is a run.
* `Hosted.start_started`: A server that starts has just started.
* `Hosted.setRole_step`: Giving a role is a step.
-/

namespace ChatHost

open LawfulGateway

/-- Something that comes to pass at a server. -/
inductive Occurrence
  /-- Time goes by. -/
  | wait (ms : Nat)
  /-- A packet comes in. -/
  | packet (peer : SocketAddress) (payload : Bytes)
  /-- A tick begins and empties the queue. -/
  | broadcast (accepts : Nat → SocketAddress → Bool)
  /-- A tick asks those who have been silent for too long. -/
  | ask (staleAfter : Nat)
  /-- A tick ends, with the results of those who were asked, in order. -/
  | settle (alive : List Bool)
  /-- An operator gives every user of a name a role. -/
  | grant (username : String) (role : Role)
  /-- Someone else does an operation of the store. -/
  | elsewhere (request : StoreRequest)
  /-- From now on exactly these operations of the store fail. -/
  | outage (broken : List StoreMethod)

namespace Occurrence

/-- Whether the queue is emptied. -/
def isBroadcast : Occurrence → Bool
  | broadcast _ => true
  | _ => false

/-- Whether a packet comes in. -/
def isPacket : Occurrence → Bool
  | packet .. => true
  | _ => false

/-- Whether someone else uses the store. -/
def isElsewhere : Occurrence → Bool
  | elsewhere _ => true
  | _ => false

end Occurrence

/-- What happens while heartbeats are out comes to pass at the server. -/
def Interlude.occurrence : Interlude → Occurrence
  | wait ms => .wait ms
  | packet peer payload => .packet peer payload

/-- A server that runs, with its clock and its world. -/
structure Service (σ : Type) where
  server : ServerId
  clock : Instant := 0
  world : World (Breakable σ)
  /-- The users who are being asked whether they are there. -/
  asked : List StaleUser := []

namespace Service

section Running

variable {σ : Type} [Gateway σ]

/-- The users of the server who are tracked. -/
def presence (s : Service σ) : Tracker := s.world.live.presence

/-- The messages that are stored and not yet pushed. -/
def queue (s : Service σ) : List Message := s.world.live.queue

/-- What becomes of a server. -/
def step (s : Service σ) : Occurrence → Service σ
  | .wait ms => { s with clock := s.clock + ms }
  | .packet peer payload =>
    { s with world := (dispatch .standard s.server peer payload s.clock s.world).2 }
  | .broadcast accepts =>
    { s with world := { s.world with live := (s.world.live.fanOut accepts).2.2 } }
  | .ask staleAfter => { s with asked := s.presence.stale staleAfter s.clock }
  | .settle alive =>
    { s with
      world := s.world.setPresence (applyHeartbeats s.clock (s.asked.zip alive) s.presence).1
      asked := [] }
  | .grant username role =>
    let (result, store) := Gateway.updateRole s.world.store s.server username role
    let presence :=
      match result with
      | .ok true => s.presence.setRole username role
      | _ => s.presence
    { s with world := { store := store, live := { s.world.live with presence := presence } } }
  | .elsewhere request =>
    { s with world := { s.world with store := (request.run s.world.store).2 } }
  | .outage broken =>
    { s with world := { s.world with store := { s.world.store with broken := broken } } }

/-- What becomes of a server when one thing happens after the other. -/
def run (s : Service σ) (history : List Occurrence) : Service σ := history.foldl step s

@[simp] theorem run_nil (s : Service σ) : s.run [] = s := rfl

@[simp] theorem run_cons (s : Service σ) (o : Occurrence) (rest : List Occurrence) :
    s.run (o :: rest) = (s.step o).run rest := rfl

theorem run_append (s : Service σ) (first later : List Occurrence) :
    s.run (first ++ later) = (s.run first).run later :=
  List.foldl_append

/-- What every step keeps, every run keeps. -/
theorem run_invariant (inv : Service σ → Prop) (hstep : ∀ s o, inv s → inv (s.step o))
    (s : Service σ) (history : List Occurrence) (h : inv s) : inv (s.run history) := by
  induction history generalizing s with
  | nil => exact h
  | cons o rest ih => exact ih (s.step o) (hstep s o h)

theorem step_server (s : Service σ) (o : Occurrence) : (s.step o).server = s.server := by
  cases o <;> rfl

-- A server stays the one that it is.
theorem run_server (s : Service σ) (history : List Occurrence) :
    (s.run history).server = s.server :=
  run_invariant (fun t => t.server = s.server) (fun t o ht => (t.step_server o).trans ht) s
    history rfl

/-- What goes back to the sender of a packet, if it is a packet and something
    does. -/
def answer? (s : Service σ) : Occurrence → Option Bytes
  | .packet peer payload =>
    (dispatch .standard s.server peer payload s.clock s.world).1.answer?
  | _ => none

-- What is behind a packet that is handled: the course of the request, from the
-- world that has seen the sign of life.
theorem packet_handled (s : Service σ) (peer : SocketAddress) {payload body : Bytes}
    {handler : Handler} (hheader : RequestHeader.decode payload = (.ok ⟨handler.kind⟩, body)) :
    ∃ reply : Except HandlerError Reply,
      Course s.server { peer, payload := body, now := s.clock } (s.world.touch peer s.clock)
        handler
        (handler.calls s.server { peer, payload := body, now := s.clock }
          (s.world.touch peer s.clock))
        reply (s.step (.packet peer payload)).world ∧
      (dispatch .standard s.server peer payload s.clock s.world).1 =
        .handled handler.kind reply := by
  have hdispatch := dispatch_handled s.server peer hheader s.clock s.world
  let request : Request := { peer, payload := body, now := s.clock }
  let w := s.world.touch peer s.clock
  refine ⟨(handler.run s.server request w).1, ?_, ?_⟩
  · rw [step, hdispatch]
    exact handler.run_course s.server request w
  · rw [hdispatch]

-- The same, with what goes back to the sender.
theorem packet_course (s : Service σ) (peer : SocketAddress) {payload body : Bytes}
    {handler : Handler} (hheader : RequestHeader.decode payload = (.ok ⟨handler.kind⟩, body)) :
    ∃ reply : Except HandlerError Reply,
      Course s.server { peer, payload := body, now := s.clock } (s.world.touch peer s.clock)
        handler
        (handler.calls s.server { peer, payload := body, now := s.clock }
          (s.world.touch peer s.clock))
        reply (s.step (.packet peer payload)).world ∧
      s.answer? (.packet peer payload) = (Dispatched.handled handler.kind reply).answer? := by
  rcases s.packet_handled peer hheader with ⟨reply, hcourse, houtcome⟩
  exact ⟨reply, hcourse, congrArg Dispatched.answer? houtcome⟩

/-- The packets that are tried to be pushed. -/
def attempts (s : Service σ) : Occurrence → List Attempt
  | .broadcast accepts => (s.world.live.fanOut accepts).2.1
  | _ => []

/-- The messages that are taken from the queue. -/
def drained (s : Service σ) : Occurrence → List Message
  | .broadcast _ => s.queue
  | _ => []

/-- Everything of one kind that is seen of a run, in order. -/
def collect {α : Type} (see : Service σ → Occurrence → List α) :
    Service σ → List Occurrence → List α
  | _, [] => []
  | s, o :: rest => see s o ++ collect see (s.step o) rest

theorem collect_append {α : Type} (see : Service σ → Occurrence → List α) (s : Service σ)
    (first later : List Occurrence) :
    collect see s (first ++ later) = collect see s first ++ collect see (s.run first) later := by
  induction first generalizing s with
  | nil => rfl
  | cons o rest ih =>
      rw [List.cons_append, collect, collect, ih, run_cons, List.append_assoc]

-- Without a tick nothing is drained.
theorem collect_drained_nil (s : Service σ) (history : List Occurrence)
    (h : ∀ o ∈ history, o.isBroadcast = false) : collect drained s history = [] := by
  induction history generalizing s with
  | nil => rfl
  | cons o rest ih =>
      have ho := h o List.mem_cons_self
      rw [collect, ih (s.step o) fun p hp => h p (List.mem_cons_of_mem _ hp), List.append_nil]
      cases o with
      | broadcast accepts => exact absurd ho (by simp [Occurrence.isBroadcast])
      | _ => rfl

end Running

section Records

variable {σ : Type} [Gateway σ] [LawfulGateway σ]

/-- All messages in the store. -/
def stored (s : Service σ) : List Message := (records s.world.store).messages

/-- The messages that a packet adds to the store. -/
def accepted (s : Service σ) (o : Occurrence) : List Message :=
  match o with
  | .packet .. => (s.step o).stored.drop s.stored.length
  | _ => []

/-- A server that has just started on a store that gateway operations have kept:
    it tracks nobody, or the users whom it found in the store, no two of whom have
    the same IP address. -/
structure Started (s : Service σ) : Prop where
  orderly : Orderly s.world.store
  queue : s.queue = []
  asked : s.asked = []
  presence : s.presence = .empty ∨
    ∃ (found : List UserRecord) (now : Instant),
      Gateway.selectUsers s.world.store { server := some s.server } = .ok found ∧
      (found.Pairwise fun u v => u.ip ≠ v.ip) ∧ s.presence = .load found now

end Records

end Service

namespace Stage

variable {σ : Type} [Gateway σ]

/-- The server on a stage. Peers and their scripts are no part of it. -/
def service (s : Stage (Breakable σ)) (asked : List StaleUser) : Service σ :=
  { server := s.server, clock := s.clock, world := s.world, asked }

/-- Whatever the packet and its sender, receiving it is one step. -/
theorem receive_step (s : Stage (Breakable σ)) (hs : s.handlers = .standard) (packet : Inbound)
    (asked : List StaleUser) :
    (s.receive packet).2.handlers = .standard ∧
      (s.receive packet).2.service asked =
        (s.service asked).step (.packet packet.peer packet.payload) := by
  refine ⟨hs, ?_⟩
  rw [receive, hs]
  rfl

-- What happens while heartbeats are out is a run.
theorem interludes_runs (script : List Interlude) (s : Stage (Breakable σ))
    (hs : s.handlers = .standard) (asked : List StaleUser) :
    (s.interludes script).2.service asked =
      (s.service asked).run (script.map Interlude.occurrence) := by
  induction script generalizing s with
  | nil => rfl
  | cons first rest ih =>
      cases first with
      | wait ms => exact ih (s.wait ms) hs
      | packet peer payload =>
          rcases receive_step s hs { peer, correlation := some 0, payload } asked with
            ⟨hs', hstep⟩
          have hrest := ih _ hs'
          rw [hstep] at hrest
          exact hrest

theorem tick_stage (s : Stage (Breakable σ)) : s.tick.2.2 = s.broadcast.2.2.sweep.2.2 := by
  rcases hbroadcast : s.broadcast with ⟨report, pushed, drained⟩
  rcases hsweep : drained.sweep with ⟨⟨heartbeats, demoted⟩, asked, after⟩
  simp only [tick, hbroadcast, hsweep]

-- What a sweep is, given what happens while its heartbeats are out.
theorem sweep_stage (s : Stage (Breakable σ)) (scripted : List (StaleUser × HeartbeatScript))
    (hscripted : ((s.world.live.presence.stale s.staleAfter s.clock).map
      fun user => (user, s.scriptOf user.address)) = scripted)
    (effects : List Effect) (after : Stage (Breakable σ))
    (hafter : s.interludes (happenings (scripted.map Prod.snd)) = (effects, after)) :
    let asked := s.world.live.presence.stale s.staleAfter s.clock
    let applied := applyHeartbeats after.clock
      (scripted.map fun entry => (entry.1, entry.2.outcome.alive)) after.world.live.presence
    s.sweep = ((asked.length, applied.2),
      asked.map (fun user => Effect.asked user.address heartbeatPacket) ++ effects,
      { after with world := after.world.setPresence applied.1 }) := by
  rw [sweep, hscripted, hafter]

/-- A tick is a run that begins with emptying the queue and ends with applying
    the results, and does neither in between. -/
theorem tick_runs (s : Stage (Breakable σ)) (hs : s.handlers = .standard)
    (asked : List StaleUser) :
    ∃ (accepts : Nat → SocketAddress → Bool) (during : List Occurrence) (alive : List Bool),
      (∀ o ∈ during, o.isBroadcast = false) ∧
      s.tick.2.2.service [] = (s.service asked).run
        (.broadcast accepts :: .ask s.staleAfter :: (during ++ [.settle alive])) := by
  let stale := s.broadcast.2.2.world.live.presence.stale s.staleAfter s.clock
  let alive := stale.map fun user => (s.scriptOf user.address).outcome.alive
  let scripted := stale.map fun user => (user, s.scriptOf user.address)
  -- No time passes between the two halves until the questions are out.
  have hbegin : ((s.service asked).step (.broadcast fun _ peer =>
      decide (peer ∉ s.unreachable))).step (.ask s.staleAfter) =
      s.broadcast.2.2.service stale := rfl
  have hresults : (scripted.map fun entry => (entry.1, entry.2.outcome.alive)) =
      stale.zip alive := by
    rw [List.map_map]
    exact List.map_prod_left_eq_zip
  rcases hafter : s.broadcast.2.2.interludes (happenings (scripted.map Prod.snd)) with
    ⟨effects, after⟩
  have hduring := interludes_runs (happenings (scripted.map Prod.snd)) s.broadcast.2.2 hs stale
  rw [hafter] at hduring
  have hquiet : ∀ o ∈ (happenings (scripted.map Prod.snd)).map Interlude.occurrence,
      o.isBroadcast = false := by
    intro o ho
    rcases List.mem_map.mp ho with ⟨interlude, -, rfl⟩
    cases interlude <;> rfl
  refine ⟨fun _ peer => decide (peer ∉ s.unreachable), _, alive, hquiet, ?_⟩
  rw [Service.run_cons, Service.run_cons, hbegin, Service.run_append, ← hduring,
    Service.run_cons, Service.run_nil, tick_stage,
    sweep_stage s.broadcast.2.2 scripted rfl effects after hafter, hresults]
  rfl

end Stage

namespace Hosted

variable {σ : Type} [Gateway σ]

/-- A server that starts on an orderly store has just started, if no two of its
    users have the same IP address. -/
theorem start_started [LawfulGateway σ] {h h' : Hosted} {store : Breakable σ} {isTaken : Bool}
    {now : Instant} (hstart : h.start store isTaken now = (.ok (), h')) (hstore : Orderly store)
    (hapart : ∀ found, Gateway.selectUsers store { server := some h.id } = .ok found →
      found.Pairwise fun u v => u.ip ≠ v.ip) :
    Service.Started (σ := σ)
      { server := h.id, clock := now, world := { store := store, live := h'.live } } := by
  rw [start] at hstart
  split at hstart
  · simp at hstart
  · split at hstart
    · simp at hstart
    · next found hfound =>
      split at hstart
      · simp at hstart
      · rcases Prod.mk.inj hstart with ⟨-, rfl⟩
        exact ⟨hstore, rfl, rfl, Or.inr ⟨found, now, hfound, hapart found hfound, rfl⟩⟩

/-- Giving a role is a step. -/
theorem setRole_step (h : Hosted) (store : Breakable σ) (username : String) (role : Role)
    (clock : Instant) (asked : List StaleUser) :
    Service.step { server := h.id, clock, world := { store := store, live := h.live }, asked }
        (.grant username role) =
      { server := h.id, clock, asked
        world := {
          store := (h.setRole store username role).2.1
          live := (h.setRole store username role).2.2.live } } := by
  rcases hupdate : Gateway.updateRole store h.id username role with ⟨fault | found, store'⟩
  · simp only [Service.step, setRole, hupdate]
    rfl
  · cases found <;> simp only [Service.step, setRole, hupdate] <;> rfl

end Hosted

end ChatHost
