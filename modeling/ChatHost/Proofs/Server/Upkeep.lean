import ChatHost.Proofs.Server.Isolation
import ChatHost.Proofs.Server.Lifecycle

/-!
# What a Server Keeps Up

What is true of a hosted server whatever has come to pass, and what it does not lose as
long as it runs.

A server that runs is a service, and whatever comes to pass at it but for its end is a run
of this service (`Venue.step_leads`). So it stays sound, and whom it tracks it goes on
tracking: nobody is ever taken from a tracker, and the store that it is tied to forgets
nobody (`Service.Sound.roster_run`). What is more than a service, the socket, stays open,
and the packets that wait there stay in order until they are taken (`Turn.reception_settle`).

Nothing of this depends on what the store holds or on which of its operations fail. It is
gathered in one invariant (`Venue.Upheld`), which a server has from the first and which
every occasion keeps.

## Main definitions

* `Endpoint.reception`: What becomes of packets that come in depends on no more than this,
  but for the pieces that there are of them.
* `Endpoint.Ready`: A socket takes in packets.
* `Venue.service`: The service that a server is, with its store.
* `Venue.inbox`: The packets that wait to be taken in.
* `Venue.Upheld`: What is true of a server at any time.

## Theorems

* `Service.store_run`: What operations keep of a store, a server keeps.
* `Service.Sound.roster_run`: Whoever is tracked stays tracked.
* `Venue.step_leads`, `Venue.step_history`: What comes to pass at a server that neither starts
  nor stops.
* `Venue.Upheld.step`, `Venue.Upheld.run`: A server is upheld, whatever comes to pass.
* `Venue.Upheld.run_lasts`: What lasts while it runs.
* `Venue.Upheld.run_waits`: A packet that waits moves up in the inbox.
-/

namespace ChatHost

open LawfulGateway

section Storing

variable {σ : Type} [Gateway σ] [LawfulGateway σ]

-- Whatever is done to a store, it stays orderly and its users apart.
theorem StoreRequest.runAll_apart {s : σ} (hs : Orderly s) (h : Apart s)
    (calls : List StoreRequest) : Orderly (runAll s calls) ∧ Apart (runAll s calls) :=
  runAll_keeps (fun _ request hs h => request.run_apart hs h) hs h calls

namespace Service

variable {P : Breakable σ → Prop} {s : Service σ}

/-- What the operations of a store keep and failures leave alone, a server keeps: it changes
    its store by operations only. -/
theorem store_step
    (hrun : ∀ (store : Breakable σ) (request : StoreRequest), Orderly store → P store →
      P (request.run store).2)
    (houtage : ∀ (store : Breakable σ) (broken : List StoreMethod), P store →
      P { store with broken := broken })
    (hs : Orderly s.world.store) (h : P s.world.store) (o : Occurrence) :
    P (s.step o).world.store := by
  cases o with
  | packet peer payload =>
      rw [step]
      rcases dispatch_cases s.server peer payload s.clock s.world with
        ⟨-, hsame⟩ | ⟨handler, body, hheader⟩
      · rw [hsame]
        exact h
      · rcases s.packet_handled peer hheader with ⟨reply, hcourse, -⟩
        have hstore := hcourse.store_eq
        rw [World.touch_store] at hstore
        exact hstore ▸ (StoreRequest.runAll_keeps hrun hs h _).2
  | grant username role => exact hrun _ (.updateRole s.server username role) hs h
  | elsewhere request => exact hrun _ request hs h
  | outage broken => exact houtage _ broken h
  | _ => exact h

theorem store_run
    (hrun : ∀ (store : Breakable σ) (request : StoreRequest), Orderly store → P store →
      P (request.run store).2)
    (houtage : ∀ (store : Breakable σ) (broken : List StoreMethod), P store →
      P { store with broken := broken })
    (hs : Orderly s.world.store) (h : P s.world.store) (history : List Occurrence) :
    P (s.run history).world.store := by
  induction history generalizing s with
  | nil => exact h
  | cons o rest ih => exact ih (step_grows hs o).orderly (store_step hrun houtage hs h o)

-- In the store, users stay apart.
theorem apart_run (h : Apart s.world.store) (hs : Orderly s.world.store)
    (history : List Occurrence) : Apart (s.run history).world.store :=
  store_run (fun _ request hs h => request.run_apart hs h) (fun _ _ h => h) hs h history

-- Channels stay where they are.
theorem hosts_run {server : ServerId} {channel : ChannelId}
    (h : Hosts s.world.store server channel) (hs : Orderly s.world.store)
    (history : List Occurrence) : Hosts (s.run history).world.store server channel :=
  store_run (fun _ request hs h => request.run_hosts hs h) (fun _ _ h => h) hs h history

/-- Whoever is tracked stays tracked: nobody is taken from the tracker, and who is new comes
    with an id of their own. -/
theorem Sound.roster_step (h : s.Sound) (o : Occurrence) :
    s.presence.roster ⊆ (s.step o).presence.roster := by
  have hsame : (s.step o).presence.roster = s.presence.roster →
      s.presence.roster ⊆ (s.step o).presence.roster := fun heq => heq ▸ List.Subset.refl _
  cases o with
  | packet peer payload =>
      rcases dispatch_cases s.server peer payload s.clock s.world with
        ⟨-, hnothing⟩ | ⟨handler, body, hheader⟩
      · exact hsame (by rw [presence, Service.step, hnothing, presence])
      · rcases s.packet_handled peer hheader with ⟨reply, hcourse, -⟩
        have htouched := h.world.touch peer s.clock
        rcases hcourse.enrolls htouched.orderly with
          ⟨hroster, -⟩ | ⟨username, record, store, -, -, hstore, hworld⟩
        · exact hsame (hroster.trans (s.world.roster_touch peer s.clock))
        · have hlast := Tracker.insert_last
            { TrackedUser.ofRecord record s.clock with address := some peer }
            (htouched.lt_newcomer hstore)
          have hroster : (s.step (.packet peer payload)).presence.roster =
              s.presence.roster ++ [(record.id, record.ip)] := by
            rw [presence, hworld, World.setPresence, Tracker.join, hlast, Tracker.roster,
              List.map_append]
            exact congrArg (· ++ [(record.id, record.ip)]) (s.world.roster_touch peer s.clock)
          exact hroster ▸ List.subset_append_left _ _
  | settle alive => exact hsame (roster_applyHeartbeats _ _ _)
  | grant username role =>
      refine hsame ?_
      simp only [Service.step, presence]
      split
      · exact Tracker.roster_setRole username role
      · rfl
  | _ => exact hsame rfl

theorem Sound.roster_run (h : s.Sound) (history : List Occurrence) :
    s.presence.roster ⊆ (s.run history).presence.roster := by
  induction history generalizing s with
  | nil => exact List.Subset.refl _
  | cons o rest ih => exact List.Subset.trans (h.roster_step o) (ih (h.step o))

end Service

end Storing

-- Whoever is found behind an address is found there as long as they are tracked.
theorem Tracker.Sound.find?_of_subset {t t' : Tracker} (h : t.Sound) (h' : t'.Sound)
    (hroster : t.roster ⊆ t'.roster) {address : SocketAddress} {user : TrackedUser}
    (hfound : t.find? address = some user) : ∃ user', t'.find? address = some user' := by
  rcases find?_ip h.users hfound with ⟨hmem, hip⟩
  rcases List.mem_map.mp (hroster (mem_roster hmem)) with ⟨user', hmem', hsame⟩
  exact ⟨user', find?_of_mem h'.apart h'.users hmem' ((Prod.mk.inj hsame).2.trans hip)⟩

namespace Endpoint

/-- All of an endpoint that matters to packets which come in, but for the pieces that it has
    of them. -/
def reception (e : Endpoint) : SocketAddress × Bool × Bool × List Inbound :=
  (e.address, e.closed, e.inboxOpen, e.inbox)

/-- A socket at some address is open, and packets are taken from it. -/
structure Ready (e : Endpoint) (address : SocketAddress) : Prop where
  address : e.address = address
  opened : e.closed = false
  taking : e.inboxOpen = true

variable {e : Endpoint} {address : SocketAddress}

theorem Ready.of_reception (h : e.Ready address) {e' : Endpoint}
    (hsame : e'.reception = e.reception) : e'.Ready address ∧ e'.inbox = e.inbox := by
  simp only [reception, Prod.mk.injEq] at hsame
  rcases hsame with ⟨haddress, hclosed, htaking, hinbox⟩
  exact ⟨⟨haddress.trans h.address, hclosed.trans h.opened, htaking.trans h.taking⟩, hinbox⟩

theorem reception_request (e : Endpoint) (network : Network) (peer : SocketAddress)
    (payload : Bytes) (timeout : Nat) (now : Instant) :
    (e.request network peer payload timeout now).2.2.reception = e.reception := by
  rw [Endpoint.request]
  split
  · rfl
  · split <;> rfl

/-- What comes in goes to the end of the inbox, if it goes there at all. -/
theorem Ready.receive (h : e.Ready address) (peer : SocketAddress) (datagram : Bytes)
    (now : Instant) :
    (e.receive peer datagram now).2.Ready address ∧
      ∃ arrived, (e.receive peer datagram now).2.inbox = e.inbox ++ arrived := by
  rcases e.receive_eq peer datagram now with ⟨reassembler, hreceive⟩
  rw [hreceive]
  split
  · exact ⟨⟨h.address, h.opened, h.taking⟩, [], (List.append_nil _).symm⟩
  · next frame _ =>
    have hdeposit : ∀ packet, (deposit { e with reassembler := reassembler } packet).Ready address ∧
        ∃ arrived, (deposit { e with reassembler := reassembler } packet).inbox =
          e.inbox ++ arrived := by
      intro packet
      rw [deposit]
      split
      · exact ⟨⟨h.address, h.opened, h.taking⟩, [packet], rfl⟩
      · exact ⟨⟨h.address, h.opened, h.taking⟩, [], (List.append_nil _).symm⟩
    rw [route]
    split
    · rw [resolve]
      split <;> exact ⟨⟨h.address, h.opened, h.taking⟩, [], (List.append_nil _).symm⟩
    · exact hdeposit _
    · exact hdeposit _

theorem Ready.take (h : e.Ready address) : e.take.2.Ready address := by
  rw [Endpoint.take]
  split
  · exact ⟨h.address, h.opened, h.taking⟩
  · exact h

-- The packet that has waited longest is taken, if there is one.
theorem take_inbox (e : Endpoint) : e.take.2.inbox = e.inbox.tail := by
  rw [take]
  split
  · next hinbox => rw [hinbox, List.tail_cons]
  · next hinbox => rw [hinbox, List.tail_nil]

end Endpoint

namespace Turn

variable {σ : Type}

theorem reception_broadcast (turn : Turn σ) :
    turn.broadcast.session.endpoint.reception = turn.session.endpoint.reception := by
  have hpushes : ∀ (deliveries : List (SocketAddress × Bytes)) (turn : Turn σ),
      (deliveries.foldl push turn).session.endpoint.reception =
        turn.session.endpoint.reception := by
    intro deliveries
    induction deliveries with
    | nil => exact fun _ => rfl
    | cons delivery rest ih => exact fun turn => ih (turn.push delivery)
  rw [broadcast, hpushes]

theorem reception_inquireAll (turn : Turn σ) (users : List StaleUser) :
    (turn.inquireAll users).2.session.endpoint.reception = turn.session.endpoint.reception := by
  induction users generalizing turn with
  | nil => rfl
  | cons user rest ih =>
      exact (ih _).trans (turn.session.endpoint.reception_request turn.network user.address
        heartbeatPacket turn.timing.heartbeatTimeout turn.now)

theorem reception_beginSweep (turn : Turn σ) :
    turn.beginSweep.session.endpoint.reception = turn.session.endpoint.reception :=
  turn.reception_inquireAll _

theorem reception_expire (turn : Turn σ) :
    turn.expire.session.endpoint.reception = turn.session.endpoint.reception := rfl

theorem reception_endSweep (turn : Turn σ) :
    turn.endSweep.session.endpoint.reception = turn.session.endpoint.reception := by
  rw [endSweep]
  split <;> rfl

theorem reception_tick (turn : Turn σ) :
    turn.tick.session.endpoint.reception = turn.session.endpoint.reception := by
  rw [tick, reception_endSweep, reception_expire, reception_beginSweep, reception_broadcast]

/-- Packets that wait make no difference to what is due, nor that to them. -/
theorem reception_settle (turn : Turn σ) :
    turn.settle.session.endpoint.reception = turn.session.endpoint.reception := by
  have hticks : ∀ (count : Nat) (turn : Turn σ),
      (turn.tickWhileDue count).session.endpoint.reception =
        turn.session.endpoint.reception := by
    intro count
    induction count with
    | zero => exact fun _ => rfl
    | succ count ih =>
        intro turn
        rw [tickWhileDue]
        split
        · exact (ih turn.tick).trans turn.reception_tick
        · rfl
  rw [settle, hticks, reception_endSweep, reception_expire]

end Turn

namespace Hosted

variable {σ : Type} (h : Hosted) (store : Breakable σ) (now : Instant)

-- What is done at one instant neither starts a server nor stops it.
theorem isRunning_act (network : Network) (deed : Turn (Breakable σ) → Turn (Breakable σ)) :
    (h.act network store now deed).2.2.isRunning = h.isRunning := by
  rcases hsession : h.session with _ | session
  · rw [act_stopped _ _ _ hsession]
  · rw [act_running _ _ _ hsession, isRunning, isRunning, hsession]
    rfl

-- To give a role is a step of the service that a server is.
theorem service_setRole [Gateway σ] (username : String) (role : Role) :
    (h.setRole store username role).2.2.service (h.setRole store username role).2.1 now =
      (h.service store now).step (.grant username role) := by
  rw [service, service, setRole_step]
  rcases hupdate : Gateway.updateRole store h.id username role with ⟨fault | _ | _, store'⟩ <;>
    simp only [setRole, hupdate]

end Hosted

/-- Whether a packet is taken in, if one waits. -/
def Occasion.takes (occasion : Occasion) : Bool :=
  match occasion.affair with
  | .happening .packet => true
  | _ => false

namespace Venue

section Leading

open Service

variable {σ : Type} [Gateway σ] {v : Venue σ}

/-- The service that a server is, with its store. -/
def service (v : Venue σ) (now : Instant) : Service σ := v.hosted.service v.store now

/-- The packets that wait to be taken in. -/
def inbox (v : Venue σ) : List Inbound :=
  match v.hosted.session with
  | some session => session.endpoint.inbox
  | none => []

/-- Whatever comes to pass at a server, but for starts and stops, is a run of the service
    that it is, and lets it run or lets it be. -/
theorem step_leads {occasion : Occasion} {among : Occurrence → Bool}
    (hamong : ∀ o, o.isElsewhere = false → among o = true)
    (helsewhere : ∀ request, occasion.affair = .elsewhere request →
      among (.elsewhere request) = true)
    (hstart : ∀ isTaken, occasion.affair ≠ .start isTaken) (hstop : occasion.affair ≠ .stop) :
    Leads among (v.service occasion.now) ((v.step occasion).2.service occasion.now) ∧
      (v.step occasion).2.hosted.isRunning = v.hosted.isRunning := by
  have hpacket : ∀ o : Occurrence, o.isPacket = true → among o = true := by
    intro o ho
    refine hamong o ?_
    cases o <;> first | rfl | simp [Occurrence.isPacket] at ho
  have htick : ∀ o : Occurrence, o.isTick = true → among o = true := by
    intro o ho
    refine hamong o ?_
    cases o <;> first | rfl | simp [Occurrence.isTick] at ho
  rcases occasion with ⟨network, now, isTaken | _ |
    (⟨peer, bytes⟩ | _ | _ | ⟨username, role⟩) | request | broken⟩
  · exact absurd rfl (hstart isTaken)
  · exact absurd rfl hstop
  · exact ⟨v.hosted.arrive_leads network v.store now among peer bytes,
      v.hosted.isRunning_act v.store now network fun turn => turn.arrive peer bytes⟩
  · exact ⟨(v.hosted.handleNext_leads network v.store now).mono hpacket,
      v.hosted.isRunning_act v.store now network _⟩
  · exact ⟨(v.hosted.settle_leads network v.store now).mono htick,
      v.hosted.isRunning_act v.store now network _⟩
  · refine ⟨.of_step (.grant username role) (hamong _ rfl)
      (v.hosted.service_setRole v.store now _ _) rfl, ?_⟩
    exact congrArg Option.isSome (v.hosted.live_setRole v.store username role).1
  · exact ⟨.of_step (.elsewhere request) (helsewhere request rfl) rfl rfl, rfl⟩
  · exact ⟨.of_step (.outage broken) (hamong _ rfl) rfl rfl, rfl⟩

/-- What comes to pass is some history of that service, whatever it is. -/
theorem step_history {occasion : Occasion} (hstart : ∀ isTaken, occasion.affair ≠ .start isTaken)
    (hstop : occasion.affair ≠ .stop) :
    ∃ history, (v.step occasion).2.service occasion.now =
        (v.service occasion.now).run history ∧
      (v.step occasion).2.hosted.isRunning = v.hosted.isRunning := by
  let anything : Occurrence → Bool := fun _ => true
  have hanything : ∀ o, o.isElsewhere = false → anything o = true := fun _ _ => rfl
  rcases step_leads (v := v) hanything (fun _ _ => rfl) hstart hstop with ⟨hleads, hrunning⟩
  rcases hleads.history with ⟨history, -, hrun⟩
  exact ⟨history, hrun, hrunning⟩

/-- The socket of a server stays ready, and a packet that waits there moves up by one
    whenever a packet is taken. -/
theorem step_socket {occasion : Occasion} {session : Session} {address : SocketAddress}
    (hsession : v.hosted.session = some session) (hready : session.endpoint.Ready address)
    (hstart : ∀ isTaken, occasion.affair ≠ .start isTaken) (hstop : occasion.affair ≠ .stop) :
    ∃ session', (v.step occasion).2.hosted.session = some session' ∧
      session'.endpoint.Ready address ∧
      ∀ (place : Nat) (packet : Inbound),
        session.endpoint.inbox[place + if occasion.takes then 1 else 0]? = some packet →
        session'.endpoint.inbox[place]? = some packet := by
  -- What a turn does to its socket, the server does.
  have hact : ∀ (network : Network) (now : Instant)
      (deed : Turn (Breakable σ) → Turn (Breakable σ)),
      (v.hosted.act network v.store now deed).2.2.session =
        some (deed (v.hosted.turn network v.store now session)).session := by
    intro network now deed
    rw [Hosted.act_running network v.store now hsession]
  rcases occasion with ⟨network, now, isTaken | _ |
    (⟨peer, bytes⟩ | _ | _ | ⟨username, role⟩) | request | broken⟩
  · exact absurd rfl (hstart isTaken)
  · exact absurd rfl hstop
  · rcases hready.receive peer bytes now with ⟨hready', arrived, hinbox⟩
    have hafter := hact network now fun turn => turn.arrive peer bytes
    refine ⟨_, hafter, hready', fun place packet hplace => ?_⟩
    have hlt := (List.getElem?_eq_some_iff.mp hplace).1
    exact (congrArg (·[place]?) hinbox).trans ((List.getElem?_append_left hlt).trans hplace)
  · have htake := Turn.session_handleNext (v.hosted.turn network v.store now session)
    refine ⟨_, htake ▸ hact network now Turn.handleNext, hready.take, fun place packet hplace => ?_⟩
    exact (congrArg (·[place]?) session.endpoint.take_inbox).trans
      ((List.getElem?_tail ..).trans hplace)
  · rcases hready.of_reception
      (v.hosted.turn network v.store now session).reception_settle with ⟨hready', hinbox⟩
    refine ⟨_, hact network now Turn.settle, hready', fun place packet hplace => ?_⟩
    exact (congrArg (·[place]?) hinbox).trans hplace
  · exact ⟨session, (v.hosted.live_setRole v.store username role).1.trans hsession, hready,
      fun _ _ hplace => hplace⟩
  · exact ⟨session, hsession, hready, fun _ _ hplace => hplace⟩
  · exact ⟨session, hsession, hready, fun _ _ hplace => hplace⟩

end Leading

variable {σ : Type} [Gateway σ] [LawfulGateway σ] {server : ServerId} {settings : ServerSettings}

/-- What is true of a server at any time: it is kept as it should be, its store has its users
    apart, it is sound, and if it runs, its socket is open under its address. -/
structure Upheld (server : ServerId) (settings : ServerSettings) (v : Venue σ) : Prop where
  kept : Kept server settings v
  apart : Apart v.store
  sound : ∀ now, (v.service now).Sound
  ready : ∀ session, v.hosted.session = some session →
    session.endpoint.Ready { ip := settings.bindHost, port := server }

/-- A server has gone on running, and has lost nobody and no channel. -/
structure Lasts (server : ServerId) (v v' : Venue σ) : Prop where
  running : v'.hosted.isRunning = true
  roster : v.hosted.live.presence.roster ⊆ v'.hosted.live.presence.roster
  hosts : ∀ channel, Hosts v.store server channel → Hosts v'.store server channel

omit [LawfulGateway σ] in
-- To start a server that runs is to fail.
theorem step_start_running {v : Venue σ} (hrunning : v.hosted.isRunning = true)
    (network : Network) (now : Instant) (isTaken : Bool) :
    (v.step ⟨network, now, .start isTaken⟩).2 = v := by
  simp only [step, Hosted.start, hrunning, if_true]

namespace Upheld

variable {v : Venue σ}

-- A server that does not run tracks nobody, and that is sound.
theorem of_idle (hkept : Kept server settings v) (hapart : Apart v.store)
    (hsession : v.hosted.session = none) : Upheld server settings v := by
  refine ⟨hkept, hapart, fun now => ?_, fun session hsome => ?_⟩
  · have hlive := hkept.idle hsession
    have hstarted : (v.service now).Started :=
      ⟨hkept.orderly, congrArg Live.queue hlive,
        congrArg (fun session => (session.map Session.asked).getD []) hsession,
        Or.inl (congrArg Live.presence hlive)⟩
    exact hstarted.sound
  · rw [hsession] at hsome
    exact absurd hsome.symm (Option.some_ne_none _)

/-- A server that has never been started is upheld. -/
theorem fresh {store : Breakable σ} (horderly : Orderly store) (hapart : Apart store)
    (server : ServerId) (settings : ServerSettings) :
    Upheld server settings (Venue.fresh store server settings) :=
  of_idle (Kept.fresh horderly server settings) hapart rfl

theorem start (h : Upheld server settings v) (network : Network) (now : Instant)
    (isTaken : Bool) : Upheld server settings (v.step ⟨network, now, .start isTaken⟩).2 := by
  have hkept := h.kept.step ⟨network, now, .start isTaken⟩
  rcases hresult : (v.hosted.start v.store isTaken now).1 with error | ⟨⟩
  · have hsame : (v.step ⟨network, now, .start isTaken⟩).2 = v :=
      (step_failed (congrArg Notice.lifecycle hresult)).1
    rw [hsame]
    exact h
  · rcases v.hosted.start_succeeded v.store hresult with ⟨found, hfound, -, hstart⟩
    have hafter : (v.step ⟨network, now, .start isTaken⟩).2 =
        { v with hosted := v.hosted.opened found now } := by
      simp only [step, hstart]
    rw [hafter] at hkept ⊢
    have hstarted := Hosted.start_started hstart h.kept.orderly fun found hfound =>
      selectUsers_apart h.kept.orderly h.apart hfound
    refine ⟨hkept, h.apart, fun _ => ⟨hstarted.sound.world, hstarted.sound.asked⟩, ?_⟩
    intro session hsession
    rw [← Option.some.inj hsession]
    refine ⟨?_, rfl, rfl⟩
    rw [Hosted.address, h.kept.id, h.kept.settings]

/-- Whatever comes to pass, a server is upheld. -/
theorem step (h : Upheld server settings v) (occasion : Occasion) :
    Upheld server settings (v.step occasion).2 := by
  have hkept := h.kept.step occasion
  by_cases hstart : ∃ isTaken, occasion.affair = .start isTaken
  · rcases occasion with ⟨network, now, affair⟩
    rcases hstart with ⟨isTaken, rfl⟩
    exact h.start network now isTaken
  by_cases hstop : occasion.affair = .stop
  · rcases occasion with ⟨network, now, affair⟩
    obtain rfl : affair = .stop := hstop
    exact of_idle hkept h.apart v.hosted.session_stop
  · have hstart' : ∀ isTaken, occasion.affair ≠ .start isTaken :=
      fun isTaken haffair => hstart ⟨isTaken, haffair⟩
    rcases step_history (v := v) hstart' hstop with ⟨history, hrun, hrunning⟩
    have hsound := h.sound occasion.now
    have hafter := hsound.run history
    have hapart := Service.apart_run (s := v.service occasion.now) h.apart
      hsound.world.orderly history
    rw [← hrun] at hafter hapart
    refine ⟨hkept, hapart, fun _ => ⟨hafter.world, hafter.asked⟩, fun session hsession => ?_⟩
    -- A server that runs now ran before.
    have hran : v.hosted.isRunning = true := by
      rw [← hrunning, Hosted.isRunning, hsession]
      rfl
    rcases Option.isSome_iff_exists.mp hran with ⟨before, hbefore⟩
    rcases step_socket hbefore (h.ready before hbefore) hstart' hstop with
      ⟨session', hsession', hready, -⟩
    rw [hsession] at hsession'
    exact Option.some.inj hsession' ▸ hready

theorem run (h : Upheld server settings v) (occasions : List Occasion) :
    Upheld server settings (v.run occasions) := by
  induction occasions generalizing v with
  | nil => exact h
  | cons occasion rest ih => exact ih (h.step occasion)

/-- Only a stop ends what a running server goes on with. -/
theorem step_lasts (h : Upheld server settings v) (hrunning : v.hosted.isRunning = true)
    {occasion : Occasion} (hstop : occasion.affair ≠ .stop) :
    Lasts server v (v.step occasion).2 := by
  by_cases hstart : ∃ isTaken, occasion.affair = .start isTaken
  · rcases occasion with ⟨network, now, affair⟩
    rcases hstart with ⟨isTaken, rfl⟩
    rw [step_start_running hrunning]
    exact ⟨hrunning, List.Subset.refl _, fun _ hhosts => hhosts⟩
  · have hstart' : ∀ isTaken, occasion.affair ≠ .start isTaken :=
      fun isTaken haffair => hstart ⟨isTaken, haffair⟩
    rcases step_history (v := v) hstart' hstop with ⟨history, hrun, hsame⟩
    have hsound := h.sound occasion.now
    have hroster := hsound.roster_run history
    rw [← hrun] at hroster
    refine ⟨hsame.trans hrunning, hroster, fun channel hhosts => ?_⟩
    have hhosts' := Service.hosts_run (s := v.service occasion.now) hhosts hsound.world.orderly
      history
    rw [← hrun] at hhosts'
    exact hhosts'

/-- What lasts while a server runs. -/
theorem run_lasts (h : Upheld server settings v) (hrunning : v.hosted.isRunning = true)
    {occasions : List Occasion} (hstop : ∀ occasion ∈ occasions, occasion.affair ≠ .stop) :
    Lasts server v (v.run occasions) := by
  induction occasions generalizing v with
  | nil => exact ⟨hrunning, List.Subset.refl _, fun _ hhosts => hhosts⟩
  | cons occasion rest ih =>
      have hfirst := h.step_lasts hrunning (hstop occasion List.mem_cons_self)
      have hrest := ih (h.step occasion) hfirst.running fun other hother =>
        hstop other (List.mem_cons_of_mem _ hother)
      exact ⟨hrest.running, List.Subset.trans hfirst.roster hrest.roster,
        fun channel hhosts => hrest.hosts channel (hfirst.hosts channel hhosts)⟩

theorem step_waits (h : Upheld server settings v) (hrunning : v.hosted.isRunning = true)
    {occasion : Occasion} (hstop : occasion.affair ≠ .stop) {place : Nat} {packet : Inbound}
    (hplace : v.inbox[place + if occasion.takes then 1 else 0]? = some packet) :
    (v.step occasion).2.inbox[place]? = some packet := by
  by_cases hstart : ∃ isTaken, occasion.affair = .start isTaken
  · rcases occasion with ⟨network, now, affair⟩
    rcases hstart with ⟨isTaken, rfl⟩
    rw [step_start_running hrunning]
    exact hplace
  · rcases Option.isSome_iff_exists.mp hrunning with ⟨session, hsession⟩
    rcases step_socket hsession (h.ready session hsession)
      (fun isTaken haffair => hstart ⟨isTaken, haffair⟩) hstop with
      ⟨session', hsession', -, hmoves⟩
    rw [inbox, hsession] at hplace
    rw [inbox, hsession']
    exact hmoves place packet hplace

/-- A packet that waits moves up in the inbox as packets are taken, and only then. -/
theorem run_waits (h : Upheld server settings v) (hrunning : v.hosted.isRunning = true)
    {occasions : List Occasion} (hstop : ∀ occasion ∈ occasions, occasion.affair ≠ .stop)
    {place : Nat} {packet : Inbound}
    (hplace : v.inbox[place + occasions.countP Occasion.takes]? = some packet) :
    (v.run occasions).inbox[place]? = some packet := by
  induction occasions generalizing v with
  | nil => exact hplace
  | cons occasion rest ih =>
      have hfirst := hstop occasion List.mem_cons_self
      rw [List.countP_cons, ← Nat.add_assoc] at hplace
      exact ih (h.step occasion) (h.step_lasts hrunning hfirst).running
        (fun other hother => hstop other (List.mem_cons_of_mem _ hother))
        (h.step_waits hrunning hfirst hplace)

end Upheld

end Venue

end ChatHost
