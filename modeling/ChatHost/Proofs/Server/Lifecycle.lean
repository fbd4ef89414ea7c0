import ChatHost.Proofs.Server.Acceptance
import ChatHost.Proofs.Server.Answers

/-!
# The Lifecycle of a Hosted Server

What starting and stopping does, whatever has come to pass before.

A server is started and stopped again and again on a store that it shares, and
each of these may fail. What a start leaves behind if it succeeds is settled by
the id and the settings of the server, the store and the instant
(`Hosted.opened`). Nothing else goes into it, and so nothing of an earlier session
can come back. If it fails, it has failed before anything was changed
(`Hosted.start_failed`); that the socket comes last is what makes this so.

Between a stop and the next start there is nothing for a request or a tick to act
on, and no user who could be given a role. So a server that does not run is idle,
and stays so until it is started (`Venue.Kept`).

A history is a list of occasions. Each has a network and a clock reading of its own,
since neither need stay as it is, and the store may break and be mended anywhere
in between.

## Main definitions

* `Hosted.opened`: A server that has just been started.
* `Affair`, `Occasion`: What is done with a server or happens around it, and when.
* `Venue`: A hosted server and its store.
* `Venue.step`, `Venue.run`, `Venue.notices`: What becomes of them, and who is told what.
* `Venue.Enacts`: A run is what a server does at one instant.

## Theorems

* `Hosted.start_cases`, `Hosted.stop_cases`: All that can become of a start and a stop.
* `Venue.Kept.step`, `Venue.Kept.run`: A server that does not run is idle.
* `Venue.step_failed`: Nobody can tell that a start has been tried in vain.
* `Venue.opened_users`: Whom a server knows that has just been started.
* `Venue.receive_enacted`: A datagram that is seen to at once is a run of occasions.
* `Venue.starts_afresh`: The lifecycle of a server, over all histories.
-/

namespace ChatHost

open LawfulGateway

namespace Hosted

/-- A server that has just been started, with the users who were found. -/
def opened (h : Hosted) (found : List UserRecord) (now : Instant) : Hosted :=
  { h with
    live := .start found now
    session := some { endpoint := { address := h.address }, due := now } }

variable {σ : Type} [Gateway σ] (h : Hosted) (store : σ)

/-- All that can become of a start. -/
theorem start_cases (isTaken : Bool) (now : Instant) :
    (h.isRunning = true ∧
      h.start store isTaken now = (.error (.alreadyRunning h.id), h)) ∨
    (∃ fault, h.isRunning = false ∧
      Gateway.selectUsers store { server := some h.id } = .error fault ∧
      h.start store isTaken now = (.error (.persistence fault), h)) ∨
    (∃ found, h.isRunning = false ∧
      Gateway.selectUsers store { server := some h.id } = .ok found ∧ isTaken = true ∧
      h.start store isTaken now = (.error (.bind h.address (.io Network.addressInUse)), h)) ∨
    (∃ found, h.isRunning = false ∧
      Gateway.selectUsers store { server := some h.id } = .ok found ∧ isTaken = false ∧
      h.start store isTaken now = (.ok (), h.opened found now)) := by
  rw [start]
  rcases hrunning : h.isRunning with _ | _
  · rcases hfound : Gateway.selectUsers store { server := some h.id } with fault | found
    · exact Or.inr (Or.inl ⟨fault, rfl, rfl, rfl⟩)
    · cases isTaken
      · exact Or.inr (Or.inr (Or.inr ⟨found, rfl, rfl, rfl, rfl⟩))
      · exact Or.inr (Or.inr (Or.inl ⟨found, rfl, rfl, rfl, rfl⟩))
  · exact Or.inl ⟨rfl, rfl⟩

/-- A start that fails leaves the server as it was. -/
theorem start_failed {isTaken : Bool} {now : Instant} {error : LifecycleError}
    (hfails : (h.start store isTaken now).1 = .error error) :
    h.start store isTaken now = (.error error, h) := by
  rcases h.start_cases store isTaken now with
    ⟨-, hstart⟩ | ⟨fault, -, -, hstart⟩ | ⟨found, -, -, -, hstart⟩ | ⟨found, -, -, -, hstart⟩
  · exact Prod.ext hfails (by rw [hstart])
  · exact Prod.ext hfails (by rw [hstart])
  · exact Prod.ext hfails (by rw [hstart])
  · rw [hstart] at hfails
    exact absurd hfails (by simp)

/-- A start that succeeds has found the users of the server, and its address free. -/
theorem start_succeeded {isTaken : Bool} {now : Instant}
    (hstarts : (h.start store isTaken now).1 = .ok ()) :
    ∃ found, Gateway.selectUsers store { server := some h.id } = .ok found ∧ isTaken = false ∧
      h.start store isTaken now = (.ok (), h.opened found now) := by
  rcases h.start_cases store isTaken now with
    ⟨-, hstart⟩ | ⟨fault, -, -, hstart⟩ | ⟨found, -, -, -, hstart⟩ |
    ⟨found, -, hfound, hfree, hstart⟩
  · rw [hstart] at hstarts
    exact absurd hstarts (by simp)
  · rw [hstart] at hstarts
    exact absurd hstarts (by simp)
  · rw [hstart] at hstarts
    exact absurd hstarts (by simp)
  · exact ⟨found, hfound, hfree, hstart⟩

/-- All that can become of a stop. -/
theorem stop_cases :
    (h.isRunning = true ∧ h.stop = (.ok (), { h with live := .idle, session := none })) ∨
    (h.isRunning = false ∧ h.stop = (.error (.notRunning h.id), h)) := by
  rw [stop]
  rcases h.isRunning with _ | _
  · exact Or.inr ⟨rfl, rfl⟩
  · exact Or.inl ⟨rfl, rfl⟩

theorem session_stop : h.stop.2.session = none := by
  rcases h.stop_cases with ⟨-, hstop⟩ | ⟨hstopped, hstop⟩
  · rw [hstop]
  · rw [hstop]
    exact Option.isNone_iff_eq_none.mp (Option.isSome_eq_false_iff.mp hstopped)

end Hosted

/-- What is done with a hosted server, or happens around it. -/
inductive Affair
  /-- An operator starts it. Someone else may have its address. -/
  | start (isTaken : Bool)
  /-- An operator stops it. -/
  | stop
  /-- A datagram comes in, a packet is taken in, time has gone by, or an operator gives a
      role. -/
  | happening (happening : Happening)
  /-- Someone else does an operation of the store. -/
  | elsewhere (request : StoreRequest)
  /-- From now on exactly these operations of the store fail. -/
  | outage (broken : List StoreMethod)

/-- An affair, the network as it is then, and the instant. -/
structure Occasion where
  network : Network
  now : Instant
  affair : Affair

/-- What is seen of an occasion from outside. -/
inductive Notice
  | lifecycle (result : Except LifecycleError Unit)
  | sent (datagrams : List Datagram)
  | granted (result : Except Fault Bool)
  | stored (answer : Except Fault StoreAnswer)
  | nothing

/-- The datagrams that are seen to go out. -/
def Notice.datagrams : Notice → List Datagram
  | .sent datagrams => datagrams
  | _ => []

/-- A hosted server and the store that it shares with others. -/
structure Venue (σ : Type) where
  store : Breakable σ
  hosted : Hosted

namespace Venue

section Running

variable {σ : Type}

/-- A server that has never been started. -/
def fresh (store : Breakable σ) (server : ServerId) (settings : ServerSettings) : Venue σ :=
  { store := store, hosted := { id := server, settings := settings } }

variable [Gateway σ]

/-- What an occasion does, and what is seen of it. -/
def step (v : Venue σ) (occasion : Occasion) : Notice × Venue σ :=
  match occasion.affair with
  | .start isTaken =>
    let (result, hosted) := v.hosted.start v.store isTaken occasion.now
    (.lifecycle result, { v with hosted := hosted })
  | .stop =>
    let (result, hosted) := v.hosted.stop
    (.lifecycle result, { v with hosted := hosted })
  | .happening (.datagram peer bytes) =>
    let (sent, store, hosted) := v.hosted.arrive occasion.network v.store occasion.now peer bytes
    (.sent sent, { store := store, hosted := hosted })
  | .happening .packet =>
    let (sent, store, hosted) := v.hosted.handleNext occasion.network v.store occasion.now
    (.sent sent, { store := store, hosted := hosted })
  | .happening .quiet =>
    let (sent, store, hosted) := v.hosted.settle occasion.network v.store occasion.now
    (.sent sent, { store := store, hosted := hosted })
  | .happening (.grant username role) =>
    let (result, store, hosted) := v.hosted.setRole v.store username role
    (.granted result, { store := store, hosted := hosted })
  | .elsewhere request =>
    let (answer, store) := request.run v.store
    (.stored answer, { v with store := store })
  | .outage broken => (.nothing, { v with store := { v.store with broken := broken } })

/-- What becomes of a server and its store when one occasion follows the other. -/
def run (v : Venue σ) (occasions : List Occasion) : Venue σ :=
  occasions.foldl (fun v occasion => (v.step occasion).2) v

/-- What is seen of occasions that follow one another. -/
def notices : Venue σ → List Occasion → List Notice
  | _, [] => []
  | v, occasion :: rest => (v.step occasion).1 :: notices (v.step occasion).2 rest

@[simp] theorem run_nil (v : Venue σ) : v.run [] = v := rfl

@[simp] theorem run_cons (v : Venue σ) (occasion : Occasion) (rest : List Occasion) :
    v.run (occasion :: rest) = (v.step occasion).2.run rest := rfl

variable {v : Venue σ} {network : Network} {now : Instant}

/-- Nobody can tell that a start has been tried in vain: nothing is changed, and what
    comes later goes on and is seen as if it had not been tried. -/
theorem step_failed {isTaken : Bool} {error : LifecycleError}
    (hfails : (v.step ⟨network, now, .start isTaken⟩).1 = .lifecycle (.error error)) :
    (v.step ⟨network, now, .start isTaken⟩).2 = v ∧
      ∀ later, v.run (⟨network, now, .start isTaken⟩ :: later) = v.run later ∧
        v.notices (⟨network, now, .start isTaken⟩ :: later) =
          .lifecycle (.error error) :: v.notices later := by
  have hstart := v.hosted.start_failed v.store (Notice.lifecycle.inj hfails)
  have hsame : (v.step ⟨network, now, .start isTaken⟩).2 = v := by
    simp only [step, hstart]
  refine ⟨hsame, fun later => ⟨?_, ?_⟩⟩
  · rw [run_cons, hsame]
  · rw [notices, hfails, hsame]

end Running

section Enacting

variable {σ : Type} [Gateway σ]

theorem run_append (v : Venue σ) (first later : List Occasion) :
    v.run (first ++ later) = (v.run first).run later :=
  List.foldl_append

theorem notices_append (v : Venue σ) (first later : List Occasion) :
    v.notices (first ++ later) = v.notices first ++ (v.run first).notices later := by
  induction first generalizing v with
  | nil => rfl
  | cons occasion rest ih =>
      rw [List.cons_append, notices, notices, ih, List.cons_append, run_cons]

/-- What a server and its store are after a deed of the server, and what it has sent. -/
def act (v : Venue σ) (network : Network) (now : Instant)
    (deed : Turn (Breakable σ) → Turn (Breakable σ)) : List Datagram × Venue σ :=
  let (sent, store, hosted) := v.hosted.act network v.store now deed
  (sent, { store := store, hosted := hosted })

/-- Some occasions are a deed: they come to the same, and the same is sent. -/
def Enacts (occasions : List Occasion) (network : Network) (now : Instant)
    (deed : Turn (Breakable σ) → Turn (Breakable σ)) : Prop :=
  ∀ v : Venue σ, v.run occasions = (v.act network now deed).2 ∧
    (v.notices occasions).flatMap Notice.datagrams = (v.act network now deed).1

namespace Enacts

variable {network : Network} {now : Instant}

theorem arrive (peer : SocketAddress) (bytes : Bytes) :
    Enacts (σ := σ) [⟨network, now, .happening (.datagram peer bytes)⟩] network now
      fun turn => turn.arrive peer bytes :=
  fun _ => ⟨rfl, List.append_nil _⟩

theorem handleNext :
    Enacts (σ := σ) [⟨network, now, .happening .packet⟩] network now Turn.handleNext :=
  fun _ => ⟨rfl, List.append_nil _⟩

theorem settle :
    Enacts (σ := σ) [⟨network, now, .happening .quiet⟩] network now Turn.settle :=
  fun _ => ⟨rfl, List.append_nil _⟩

-- Occasions that follow one another at one instant are deeds that do.
theorem append {earlier later : List Occasion}
    {first second : Turn (Breakable σ) → Turn (Breakable σ)}
    (hfirst : Enacts earlier network now first) (hsecond : Enacts later network now second)
    (hproceeds : Turn.Proceeds first) (hproceeds' : Turn.Proceeds second) :
    Enacts (earlier ++ later) network now fun turn => second (first turn) := by
  intro v
  rcases hfirst v with ⟨hrun, hsent⟩
  rcases hsecond (v.act network now first).2 with ⟨hrun', hsent'⟩
  rw [run_append, notices_append, List.flatMap_append, hrun, hsent, hrun', hsent']
  simp only [act, v.hosted.act_comp network v.store now hproceeds hproceeds', and_self]

theorem handleUpTo (count : Nat) :
    Enacts (σ := σ) (List.replicate count ⟨network, now, .happening .packet⟩) network now
      fun turn => turn.handleUpTo count := by
  induction count with
  | zero =>
      intro v
      have hnothing : v.act network now (fun turn => turn.handleUpTo 0) = ([], v) := by
        have hid := v.hosted.act_id network v.store now
        simp only [act, Turn.handleUpTo]
        exact congrArg (fun done => (done.1, (⟨done.2.1, done.2.2⟩ : Venue σ))) hid
      rw [hnothing]
      exact ⟨rfl, rfl⟩
  | succ count ih => exact handleNext.append ih .handleNext (.handleUpTo count)

end Enacts

/-- A datagram comes in, some packets are taken in one after the other, and all is done that
    is due. -/
def atOnce (network : Network) (now : Instant) (peer : SocketAddress) (bytes : Bytes)
    (packets : Nat) : List Occasion :=
  ⟨network, now, .happening (.datagram peer bytes)⟩ ::
    (List.replicate packets ⟨network, now, .happening .packet⟩ ++
      [⟨network, now, .happening .quiet⟩])

/-- What a server does that has nothing else to do when a datagram comes in is nothing new:
    it takes in the packets that wait then, and does what is due. -/
theorem receive_enacted (v : Venue σ) (network : Network) (now : Instant) (peer : SocketAddress)
    (bytes : Bytes) :
    ∃ packets, v.run (atOnce network now peer bytes packets) =
        { store := (v.hosted.receive network v.store now peer bytes).2.1
          hosted := (v.hosted.receive network v.store now peer bytes).2.2 } ∧
      (v.notices (atOnce network now peer bytes packets)).flatMap Notice.datagrams =
        (v.hosted.receive network v.store now peer bytes).1 := by
  let waiting (turn : Turn (Breakable σ)) : Nat :=
    (turn.arrive peer bytes).session.endpoint.inbox.length
  let deed (packets : Nat) (turn : Turn (Breakable σ)) : Turn (Breakable σ) :=
    ((turn.arrive peer bytes).handleUpTo packets).settle
  have henacts : ∀ packets, Enacts (atOnce network now peer bytes packets) network now
      (deed packets) := by
    intro packets
    have htake : Enacts (List.replicate packets ⟨network, now, .happening .packet⟩ ++
        [⟨network, now, .happening .quiet⟩]) network now
        fun turn : Turn (Breakable σ) => (turn.handleUpTo packets).settle :=
      (Enacts.handleUpTo packets).append .settle (.handleUpTo packets) .settle
    exact (Enacts.arrive peer bytes).append htake (.arrive peer bytes)
      (.comp .settle (.handleUpTo packets))
  -- How many packets wait is settled by the turn that there is.
  rcases hsession : v.hosted.session with _ | session
  · have hreceive : v.hosted.receive network v.store now peer bytes =
        v.hosted.act network v.store now (deed 0) := by
      rw [Hosted.receive, Hosted.act_stopped _ _ _ hsession, Hosted.act_stopped _ _ _ hsession]
    rw [hreceive]
    exact ⟨0, henacts 0 v⟩
  · let packets := waiting (v.hosted.turn network v.store now session)
    have hreceive : v.hosted.receive network v.store now peer bytes =
        v.hosted.act network v.store now (deed packets) := by
      rw [Hosted.receive, Hosted.act_running _ _ _ hsession, Hosted.act_running _ _ _ hsession]
      rfl
    rw [hreceive]
    exact ⟨packets, henacts packets v⟩

end Enacting

section Keeping

variable {σ : Type} [Gateway σ] [LawfulGateway σ] {server : ServerId} {settings : ServerSettings}

/-- What is true of a server at any time. It is the one that it was made as, its store
    is as gateway operations keep it, and there is nothing to it while it does not run. -/
structure Kept (server : ServerId) (settings : ServerSettings) (v : Venue σ) : Prop where
  id : v.hosted.id = server
  settings : v.hosted.settings = settings
  orderly : Orderly v.store
  idle : v.hosted.session = none → v.hosted.live = .idle

namespace Kept

theorem fresh {store : Breakable σ} (h : Orderly store) (server : ServerId)
    (settings : ServerSettings) : Kept server settings (Venue.fresh store server settings) :=
  ⟨rfl, rfl, h, fun _ => rfl⟩

variable {v : Venue σ}

-- What a server does at one instant, it does only if it runs, and it is a run of the
-- service that it is.
theorem act (h : Kept server settings v) (network : Network) (now : Instant)
    {among : Occurrence → Bool} (deed : Turn (Breakable σ) → Turn (Breakable σ))
    (hdeed : ∀ turn, Service.Leads among turn.service (deed turn).service) :
    Kept server settings
      ⟨(v.hosted.act network v.store now deed).2.1,
        (v.hosted.act network v.store now deed).2.2⟩ := by
  have hleads := v.hosted.act_leads network v.store now deed hdeed
  rcases hsession : v.hosted.session with _ | session
  · rw [Hosted.act_stopped _ _ _ hsession]
    exact ⟨h.id, h.settings, h.orderly, h.idle⟩
  · rcases hleads.history with ⟨history, -, hhistory⟩
    have hgrows := Service.run_grows (s := v.hosted.service v.store now) h.orderly history
    rw [← hhistory] at hgrows
    rw [Hosted.act_running _ _ _ hsession] at hgrows ⊢
    exact ⟨h.id, h.settings, hgrows.orderly, fun hnone => absurd hnone (Option.some_ne_none _)⟩

-- An operator finds nobody on a server that does not run.
theorem grant (h : Kept server settings v) (username : String) (role : Role) :
    Kept server settings
      ⟨(v.hosted.setRole v.store username role).2.1,
        (v.hosted.setRole v.store username role).2.2⟩ := by
  have hgrows := grows_updateRole h.orderly v.hosted.id username role
  rcases hupdate : Gateway.updateRole v.store v.hosted.id username role with
    ⟨fault | found, store⟩
  · rw [hupdate] at hgrows
    simp only [Hosted.setRole, hupdate]
    exact ⟨h.id, h.settings, hgrows.orderly, h.idle⟩
  · rw [hupdate] at hgrows
    cases found
    · simp only [Hosted.setRole, hupdate]
      exact ⟨h.id, h.settings, hgrows.orderly, h.idle⟩
    · simp only [Hosted.setRole, hupdate]
      refine ⟨h.id, h.settings, hgrows.orderly, fun hstopped => ?_⟩
      rw [h.idle hstopped]
      rfl

theorem start (h : Kept server settings v) (isTaken : Bool) (now : Instant) :
    Kept server settings { v with hosted := (v.hosted.start v.store isTaken now).2 } := by
  rcases v.hosted.start_cases v.store isTaken now with
    ⟨-, hstart⟩ | ⟨fault, -, -, hstart⟩ | ⟨found, -, -, -, hstart⟩ | ⟨found, -, -, -, hstart⟩
  · rw [hstart]
    exact h
  · rw [hstart]
    exact h
  · rw [hstart]
    exact h
  · rw [hstart]
    exact ⟨h.id, h.settings, h.orderly, fun hnone => absurd hnone (Option.some_ne_none _)⟩

theorem stop (h : Kept server settings v) :
    Kept server settings { v with hosted := v.hosted.stop.2 } := by
  rcases v.hosted.stop_cases with ⟨-, hstop⟩ | ⟨-, hstop⟩
  · rw [hstop]
    exact ⟨h.id, h.settings, h.orderly, fun _ => rfl⟩
  · rw [hstop]
    exact h

/-- Whatever comes to pass, a server that does not run is idle. -/
theorem step (h : Kept server settings v) (occasion : Occasion) :
    Kept server settings (v.step occasion).2 := by
  rcases occasion with ⟨network, now, isTaken | _ |
    (⟨peer, bytes⟩ | _ | _ | ⟨username, role⟩) | request | broken⟩
  · exact h.start isTaken now
  · exact h.stop
  · exact h.act network now _ fun turn => turn.arrive_leads Occurrence.isTick peer bytes
  · exact h.act network now _ Turn.handleNext_leads
  · exact h.act network now _ Turn.settle_leads
  · exact h.grant username role
  · exact ⟨h.id, h.settings, (request.run_grows h.orderly).orderly, h.idle⟩
  · exact ⟨h.id, h.settings, h.orderly, h.idle⟩

theorem run (h : Kept server settings v) (occasions : List Occasion) :
    Kept server settings (v.run occasions) := by
  induction occasions generalizing v with
  | nil => exact h
  | cons occasion rest ih => exact ih (h.step occasion)

end Kept

variable {v : Venue σ}

/-- A server that has just been started knows exactly the users whom the store has for
    it, as nothing but records. -/
theorem opened_users (horderly : Orderly v.store) {found : List UserRecord}
    (hfound : Gateway.selectUsers v.store { server := some v.hosted.id } = .ok found)
    (now : Instant) :
    (v.hosted.opened found now).live.presence.users =
      ((records v.store).users.filter fun user => decide (user.server = v.hosted.id)).map
        fun record => .ofRecord record now := by
  have hfound' := selectUsers_ok horderly hfound
  have hascend : found.Pairwise fun u v => u.id < v.id := by
    rw [hfound']
    exact (users_ascend horderly).filter _
  have hadmits : found = (records v.store).users.filter fun user =>
      decide (user.server = v.hosted.id) := by
    rw [hfound']
    refine List.filter_congr fun user _ => ?_
    simp only [UserFilter.admits, agrees, Bool.and_true, decide_eq_decide]
    exact eq_comm
  rw [← hadmits]
  exact congrArg Tracker.users (Tracker.load_ascending found now hascend)

end Keeping

end Venue

theorem hall_orderly : Orderly hall :=
  (Service.run_grows (Service.blank_started 7001).orderly Service.opening).orderly

/-- What happens at some instant, on a network that takes everything. -/
def Occasion.routed (now : Instant) (affair : Affair) : Occasion :=
  { network := .routed, now, affair }

namespace Venue

/-- A server is started, a client opens a channel and says something there, and before it
    is pushed the server is stopped. -/
def evening : List Occasion :=
  [.routed 0 (.start false),
   .routed 0 (.happening (.datagram Service.alice
      (Frame.whole .request 1 (requestPacket .openChannel (⟨1⟩ : OpenRequest))).encode)),
   .routed 0 (.happening .packet),
   .routed 1 (.happening (.datagram Service.alice
      (Frame.whole .request 2 (requestPacket .say (⟨1, "good night"⟩ : SayRequest))).encode)),
   .routed 1 (.happening .packet), .routed 2 .stop]

end Venue

end ChatHost
