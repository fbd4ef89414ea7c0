import ChatHost.Proofs.Server.Inquiries

/-!
# Answers

Who can answer for whom.

A server tells answers apart by number. A user who is asked has answered when a
frame with the number of their question comes in, and numbers are given out one
after the other, so it is not hard to answer for somebody else
(`stranger_answers`). What the number does guarantee is that nothing else counts:
no datagram without it ends the waiting of a request, and none keeps a user
online who is asked, as long as it does not bring a packet of theirs
(`answered_by_number`).

A history of a hosted server is a list of moments. The store is whatever it is at
each of them, the network may change, and the clock need not even go forward. What
comes in, what is taken in and what is due are moments of their own, in any order:
a packet may wait for long before it is taken, and only then is it a sign of life.

## Main definitions

* `Moment`: An instant of a hosted server, and what happens then.
* `Hosted.pass`, `Hosted.passAll`: What becomes of the server.
* `Hosted.answered`: Whether a moment brings an answer with some number.
* `Hosted.heard`: Whom a moment is a sign of life of.
* `Turn.meet`: What a turn does when something happens.
* `Hosted.Silent`: Nobody answers for a user, and they are not heard from.

## Theorems

* `Hosted.pass_cases`: All that can become of a server at a moment.
* `Hosted.Regular.pass`: A server stays regular, whatever a moment brings.
* `Hosted.pass_awaits`, `Hosted.passAll_awaits`: Who is not answered for is taken
  offline.
* `answered_by_number`: What an answer is, for requests and for users.
* `stranger_answers`: What it is not.
-/

namespace ChatHost

/-- What happens at an instant, if anything does. -/
inductive Happening
  /-- A datagram comes in. What it brings waits. -/
  | datagram (peer : SocketAddress) (bytes : Bytes)
  /-- The packet is taken in that has waited longest. -/
  | packet
  /-- All that is due is done. -/
  | quiet
  /-- An operator gives every user of a name a role. -/
  | grant (username : String) (role : Role)

/-- An instant of a hosted server: what happens, and what the server finds around it.
    Others use the store too, and the network need not stay as it is. -/
structure Moment (σ : Type) where
  store : Breakable σ
  network : Network
  now : Instant
  happening : Happening

/-- Whether the server does what is due. -/
def Moment.isActive {σ : Type} (moment : Moment σ) : Bool :=
  match moment.happening with
  | .quiet => true
  | _ => false

/-- What a turn does when something happens. Operators do without it. -/
def Turn.meet {σ : Type} [Gateway σ] (turn : Turn (Breakable σ)) :
    Happening → Turn (Breakable σ)
  | .datagram peer bytes => turn.arrive peer bytes
  | .packet => turn.handleNext
  | .quiet => turn.settle
  | .grant .. => turn

namespace Hosted

variable {σ : Type} [Gateway σ]

/-- What becomes of a hosted server. -/
def pass (h : Hosted) (moment : Moment σ) : Hosted :=
  match moment.happening with
  | .datagram peer bytes =>
    (h.arrive moment.network moment.store moment.now peer bytes).2.2
  | .packet => (h.handleNext moment.network moment.store moment.now).2.2
  | .quiet => (h.settle moment.network moment.store moment.now).2.2
  | .grant username role => (h.setRole moment.store username role).2.2

/-- What becomes of a hosted server when one moment follows the other. -/
def passAll (h : Hosted) (moments : List (Moment σ)) : Hosted := moments.foldl pass h

/-- Whether a moment brings an answer with some number: a datagram comes in, from
    anywhere, and completes a frame that is one. -/
def answered (h : Hosted) (moment : Moment σ) (number : UInt32) : Bool :=
  match h.session, moment.happening with
  | some session, .datagram peer bytes =>
    (session.endpoint.completes peer bytes moment.now).any fun frame =>
      decide (frame.kind = .response ∧ frame.correlation = number)
  | _, _ => false

/-- The users whom a moment is a sign of life of: those who are contacts of the packet
    that is taken in. -/
def heard (h : Hosted) (moment : Moment σ) : List UserId :=
  match h.session, moment.happening with
  | some session, .packet =>
    (Service.collect Service.contacts (h.service moment.store moment.now)
      ((session.endpoint.inbox.take 1).map Inbound.occurrence)).map Prod.fst
  | _, _ => []

/-- Nothing that comes to pass answers for a user who is asked, or is a sign of
    life of them. -/
def Silent (h : Hosted) (user : StaleUser) (inquiry : Inquiry) (waiters : List Waiter) :
    List (Moment σ) → Prop
  | [] => True
  | moment :: rest =>
    (∀ waiter ∈ waiters, inquiry = .waiting waiter.ticket →
      h.answered moment waiter.correlation = false) ∧
    user.id ∉ h.heard moment ∧ (h.pass moment).Silent user inquiry waiters rest

/-- Users stand in order, and the session is regular if there is one. -/
structure Regular (h : Hosted) : Prop where
  ascends : h.live.presence.Ascends
  session : ∀ session, h.session = some session → session.Regular

/-- The server waits for a user who has not answered and has not been heard from
    since they were asked. -/
structure Awaits (h : Hosted) (user : StaleUser) (inquiry : Inquiry) (waiters : List Waiter) :
    Prop where
  session : ∃ session, h.session = some session ∧ session.Awaits user inquiry waiters
  unchanged : isUnchanged h.live.presence user = true

/-- The turn of a server that runs, after a moment. -/
def turnAfter (h : Hosted) (moment : Moment σ) (session : Session) : Turn (Breakable σ) :=
  (h.turn moment.network moment.store moment.now session).meet moment.happening

-- A role is all that an operator can change.
theorem live_setRole (h : Hosted) (store : Breakable σ) (username : String) (role : Role) :
    (h.setRole store username role).2.2.session = h.session ∧
      ((h.setRole store username role).2.2.live.presence = h.live.presence ∨
        (h.setRole store username role).2.2.live.presence =
          h.live.presence.setRole username role) := by
  rcases hupdate : Gateway.updateRole store h.id username role with ⟨fault | _ | _, store'⟩
  · rw [setRole, hupdate]
    exact ⟨rfl, Or.inl rfl⟩
  · rw [setRole, hupdate]
    exact ⟨rfl, Or.inl rfl⟩
  · rw [setRole, hupdate]
    exact ⟨rfl, Or.inr rfl⟩

/-- All that can become of a server: an operator leaves it as it is but for a role, or it
    does not run, or its turn is what becomes of it. -/
theorem pass_cases (h : Hosted) (moment : Moment σ) :
    (∃ username role, moment.happening = .grant username role ∧
      (h.pass moment).session = h.session ∧
      ((h.pass moment).live.presence = h.live.presence ∨
        (h.pass moment).live.presence = h.live.presence.setRole username role)) ∨
    (h.session = none ∧ h.pass moment = h) ∨
    (∃ session, h.session = some session ∧
      (h.pass moment).session = some (h.turnAfter moment session).session ∧
      (h.pass moment).live.presence = (h.turnAfter moment session).service.presence) := by
  by_cases hgrant : ∃ username role, moment.happening = .grant username role
  · rcases hgrant with ⟨username, role, hgrant⟩
    refine Or.inl ⟨username, role, hgrant, ?_⟩
    simp only [pass, hgrant]
    exact h.live_setRole moment.store username role
  · -- Everything else is a deed of a turn.
    have hpass : h.pass moment = (h.act moment.network moment.store moment.now
        fun turn => turn.meet moment.happening).2.2 := by
      rcases hhappening : moment.happening with ⟨peer, bytes⟩ | _ | _ | ⟨username, role⟩
      · simp only [pass, hhappening]
        rfl
      · simp only [pass, hhappening]
        rfl
      · simp only [pass, hhappening]
        rfl
      · exact absurd ⟨username, role, hhappening⟩ hgrant
    refine Or.inr ?_
    rw [hpass]
    rcases hsession : h.session with _ | session
    · exact Or.inl ⟨rfl, by rw [act_stopped _ _ _ hsession]⟩
    · refine Or.inr ⟨session, rfl, ?_⟩
      rw [act_running _ _ _ hsession]
      exact ⟨rfl, rfl⟩

/-- A server that has started is regular. -/
theorem start_regular {h h' : Hosted} {store : Breakable σ} {isTaken : Bool} {now : Instant}
    (hstart : h.start store isTaken now = (.ok (), h')) : h'.Regular := by
  rw [start] at hstart
  split at hstart
  · simp at hstart
  · split at hstart
    · simp at hstart
    · split at hstart
      · simp at hstart
      · rcases Prod.mk.inj hstart with ⟨-, rfl⟩
        refine ⟨Tracker.ascends_load _ now, ?_⟩
        intro session hsession
        rw [← Option.some.inj hsession]
        exact ⟨List.nodup_nil, fun _ hsweep => absurd hsweep.symm (Option.some_ne_none _)⟩

-- Whatever happens at a moment is a run at that instant.
theorem turnAfter_leads (h : Hosted) (moment : Moment σ) (session : Session) :
    Service.Leads (fun o => o.isPacket || o.isTick)
      (h.turn moment.network moment.store moment.now session).service
      (h.turnAfter moment session).service := by
  rw [turnAfter]
  rcases moment.happening with ⟨peer, bytes⟩ | _ | _ | ⟨username, role⟩
  · exact Turn.arrive_leads _ _ peer bytes
  · exact (Turn.handleNext_leads _).mono fun o ho => by rw [ho, Bool.true_or]
  · exact (Turn.settle_leads _).mono fun o ho => by rw [ho, Bool.or_true]
  · exact .refl _

theorem turnAfter_regular {h : Hosted} (hpresence : h.live.presence.Ascends)
    (moment : Moment σ) {session : Session} (hregular : session.Regular) :
    (h.turnAfter moment session).session.Regular := by
  rw [turnAfter]
  rcases moment.happening with ⟨peer, bytes⟩ | _ | _ | ⟨username, role⟩
  · exact Turn.regular_arrive hregular peer bytes
  · exact Turn.regular_handleNext hregular
  · exact Turn.regular_settle hregular hpresence
  · exact hregular

/-- Whatever a moment brings, a server stays regular. -/
theorem Regular.pass {h : Hosted} (hregular : h.Regular) (moment : Moment σ) :
    (h.pass moment).Regular := by
  rcases h.pass_cases moment with
    ⟨username, role, -, hsame, hpresence⟩ | ⟨-, hstopped⟩ | ⟨session, hsession, hafter, hpresence⟩
  · refine ⟨?_, by rw [hsame]; exact hregular.session⟩
    rcases hpresence with hpresence | hpresence
    · rw [hpresence]
      exact hregular.ascends
    · rw [hpresence]
      exact hregular.ascends.of_roster (Tracker.roster_setRole username role)
  · rw [hstopped]
    exact hregular
  · refine ⟨?_, ?_⟩
    · rw [hpresence]
      exact (h.turnAfter_leads moment session).ascends hregular.ascends
    · intro session' hsome
      rw [hafter] at hsome
      exact Option.some.inj hsome ▸
        turnAfter_regular hregular.ascends moment (hregular.session session hsession)

theorem Regular.passAll {h : Hosted} (hregular : h.Regular) (moments : List (Moment σ)) :
    (h.passAll moments).Regular := by
  induction moments generalizing h with
  | nil => exact hregular
  | cons first rest ih => exact ih (hregular.pass first)

-- Whether a user is as they were is a matter of who is found under their id.
theorem isUnchanged_congr {t t' : Tracker} {user : StaleUser}
    (h : t'.get? user.id = t.get? user.id) : isUnchanged t' user = isUnchanged t user := by
  rw [isUnchanged, h, isUnchanged]

-- A role is no sign of life.
theorem isUnchanged_setRole (t : Tracker) (username : String) (role : Role) (user : StaleUser) :
    isUnchanged (t.setRole username role) user = isUnchanged t user := by
  rw [isUnchanged, Tracker.get?_setRole, isUnchanged]
  rcases t.get? user.id with _ | known
  · rfl
  · by_cases hname : known.username.text = username
    · simp only [Option.map_some, if_pos hname]
    · simp only [Option.map_some, if_neg hname]

-- Whom a packet is no sign of life of is found as before.
theorem handleNext_unheard {h : Hosted} {moment : Moment σ} {session : Session}
    (hsession : h.session = some session) (hpacket : moment.happening = .packet) {id : UserId}
    (hheard : id ∉ h.heard moment) :
    (h.turn moment.network moment.store moment.now session).handleNext.service.presence.get? id =
      h.live.presence.get? id := by
  have hservice := service_turn moment.network moment.store moment.now hsession
  simp only [heard, hsession, hpacket, ← hservice] at hheard
  rw [Turn.service_handleNext]
  refine Service.run_unheard ?_ hheard
  intro o ho
  rcases List.mem_map.mp ho with ⟨packet, -, rfl⟩
  rfl

omit [Gateway σ] in
-- Who is not answered for when a datagram comes in is waited for still.
theorem arrive_awaits {h : Hosted} {moment : Moment σ} {session : Session}
    (hsession : h.session = some session) {peer : SocketAddress} {bytes : Bytes}
    (hdatagram : moment.happening = .datagram peer bytes) {user : StaleUser} {inquiry : Inquiry}
    {waiters : List Waiter} (hwaits : session.Awaits user inquiry waiters)
    (hanswer : ∀ waiter ∈ waiters, inquiry = .waiting waiter.ticket →
      h.answered moment waiter.correlation = false) :
    ((h.turn moment.network moment.store moment.now session).arrive peer
      bytes).session.Awaits user inquiry waiters := by
  refine Turn.arrive_awaits hwaits ?_
  intro waiter hwaiter hinquiry frame hframe hkind hnumber
  have hno := hanswer waiter hwaiter hinquiry
  have hframe' : session.endpoint.completes peer bytes moment.now = some frame := hframe
  simp [answered, hsession, hdatagram, hframe', hkind, hnumber] at hno

/-- Whoever is gone stays gone until they are heard from. -/
theorem pass_gone {h : Hosted} {id : UserId} (hgone : h.live.presence.Gone id)
    (moment : Moment σ) (hheard : id ∉ h.heard moment) :
    (h.pass moment).live.presence.Gone id := by
  rcases h.pass_cases moment with
    ⟨username, role, -, -, hpresence | hpresence⟩ | ⟨-, hstopped⟩ |
    ⟨session, hsession, -, hpresence⟩
  · rw [hpresence]
    exact hgone
  · rw [hpresence]
    exact hgone.setRole username role
  · rw [hstopped]
    exact hgone
  · rw [hpresence, turnAfter]
    rcases hhappening : moment.happening with ⟨peer, bytes⟩ | _ | _ | ⟨username, role⟩
    · rw [Turn.meet, Turn.service_arrive]
      exact hgone
    · exact hgone.of_get? (handleNext_unheard hsession hhappening hheard)
    · exact (Turn.settle_leads _).gone hgone
    · exact hgone

/-- A user who is waited for is waited for still after a moment that neither answers
    for them nor is a sign of life of them, or they have been taken offline. They
    have been at the latest when all deadlines have come. -/
theorem pass_awaits {h : Hosted} (hregular : h.Regular) {user : StaleUser} {inquiry : Inquiry}
    {waiters : List Waiter} (hawaits : h.Awaits user inquiry waiters)
    (hopen : inquiry.alive? ≠ some true) (moment : Moment σ)
    (hanswer : ∀ waiter ∈ waiters, inquiry = .waiting waiter.ticket →
      h.answered moment waiter.correlation = false)
    (hheard : user.id ∉ h.heard moment) :
    ((h.pass moment).Awaits user inquiry waiters ∧
      (moment.isActive = true → ∃ waiter ∈ waiters, moment.now < waiter.deadline)) ∨
    (h.pass moment).live.presence.Gone user.id := by
  rcases hawaits.session with ⟨session, hsession, hwaits⟩
  have hidle : moment.happening ≠ .quiet → moment.isActive ≠ true := by
    intro hbusy
    rw [Moment.isActive]
    split
    · next hquiet => exact absurd hquiet hbusy
    · exact Bool.false_ne_true
  rcases h.pass_cases moment with
    ⟨username, role, hgrant, hsame, hpresence⟩ | ⟨hstopped, -⟩ | ⟨session', hsession', hafter,
      hpresence⟩
  · refine Or.inl ⟨⟨⟨session, hsame.trans hsession, hwaits⟩, ?_⟩, fun hactive => ?_⟩
    · rcases hpresence with hpresence | hpresence
      · rw [hpresence]
        exact hawaits.unchanged
      · rw [hpresence, isUnchanged_setRole]
        exact hawaits.unchanged
    · exact absurd hactive (hidle (by simp [hgrant]))
  · rw [hsession] at hstopped
    exact absurd hstopped (Option.some_ne_none _)
  · cases hsession.symm.trans hsession'
    rw [turnAfter] at hafter hpresence
    rcases hhappening : moment.happening with ⟨peer, bytes⟩ | _ | _ | ⟨username, role⟩
    all_goals rw [hhappening, Turn.meet] at hafter hpresence
    · refine Or.inl ⟨⟨⟨_, hafter, arrive_awaits hsession hhappening hwaits hanswer⟩, ?_⟩,
        fun hactive => absurd hactive (hidle (by simp [hhappening]))⟩
      rw [hpresence, Turn.service_arrive]
      exact hawaits.unchanged
    · refine Or.inl ⟨⟨⟨_, hafter, Turn.handleNext_awaits hwaits⟩, ?_⟩,
        fun hactive => absurd hactive (hidle (by simp [hhappening]))⟩
      rw [hpresence]
      exact (isUnchanged_congr (handleNext_unheard hsession hhappening hheard)).trans
        hawaits.unchanged
    · let turn := h.turn moment.network moment.store moment.now session
      have hregular' : turn.session.Regular := hregular.session session hsession
      have hwaits' : turn.session.Awaits user inquiry waiters := hwaits
      rcases Turn.settle_awaits hregular' hwaits' hopen hawaits.unchanged with
        ⟨hstill, hkept, hearly⟩ | hgone
      · refine Or.inl ⟨⟨⟨_, hafter, hstill⟩, ?_⟩, fun _ => hearly⟩
        rw [hpresence, hkept]
        exact hawaits.unchanged
      · rw [hpresence]
        exact Or.inr hgone
    · refine Or.inl ⟨⟨⟨_, hafter, hwaits⟩, ?_⟩,
        fun hactive => absurd hactive (hidle (by simp [hhappening]))⟩
      rw [hpresence]
      exact hawaits.unchanged

theorem passAll_gone {h : Hosted} {user : StaleUser} (hgone : h.live.presence.Gone user.id)
    {inquiry : Inquiry} {waiters : List Waiter} {later : List (Moment σ)}
    (hsilent : h.Silent user inquiry waiters later) :
    (h.passAll later).live.presence.Gone user.id := by
  induction later generalizing h with
  | nil => exact hgone
  | cons moment rest ih => exact ih (pass_gone hgone moment hsilent.2.1) hsilent.2.2

/-- A user for whom nobody answers and who is not heard from is taken offline once
    all deadlines have come. -/
theorem passAll_awaits {h : Hosted} (hregular : h.Regular) {user : StaleUser} {inquiry : Inquiry}
    {waiters : List Waiter} (hawaits : h.Awaits user inquiry waiters)
    (hopen : inquiry.alive? ≠ some true) {later : List (Moment σ)}
    (hsilent : h.Silent user inquiry waiters later)
    (hlate : ∃ moment ∈ later, moment.isActive = true ∧
      ∀ waiter ∈ waiters, waiter.deadline ≤ moment.now) :
    (h.passAll later).live.presence.Gone user.id := by
  induction later generalizing h with
  | nil =>
      rcases hlate with ⟨moment, hmem, -⟩
      exact absurd hmem List.not_mem_nil
  | cons first rest ih =>
      rcases hsilent with ⟨hanswer, hheard, hrest⟩
      rcases pass_awaits hregular hawaits hopen first hanswer hheard with
        ⟨hstill, hearly⟩ | hgone
      · refine ih (hregular.pass first) hstill hrest ?_
        -- The moment at which all deadlines have come was not this one.
        rcases hlate with ⟨moment, hmem, hactive, hdeadlines⟩
        rcases List.mem_cons.mp hmem with rfl | hmem
        · rcases hearly hactive with ⟨waiter, hwaiter, hbefore⟩
          exact absurd (hdeadlines waiter hwaiter) (Nat.not_le_of_lt hbefore)
        · exact ⟨moment, hmem, hactive, hdeadlines⟩
      · exact passAll_gone hgone hrest

end Hosted

/-- Who answers a request, and who is taken for alive. A request is answered only by
    a whole frame that comes in while somebody waits for it, says that it is an
    answer, and carries the number of the request; the answer is what it carries.
    A user who has been asked and has not been heard from is offline in the end if
    no datagram answers their inquiry and none is a sign of life of them, from the
    first moment on at which the deadlines of all who are asked have come. Where the
    answer comes from makes no difference. -/
theorem answered_by_number (σ : Type) [Gateway σ] :
    (∀ (address : SocketAddress) (earlier later : List Endpoint.Event) (network : Network)
      (peer : SocketAddress) (payload : Bytes) (timeout : Nat) (now : Instant) (ticket : Nat)
      (sent : List Datagram) (asked : Endpoint) (answer : Bytes),
      let e := (Endpoint.run { address } earlier).2
      e.request network peer payload timeout now = (.ok ticket, sent, asked) →
      ⟨ticket, some answer⟩ ∈ (asked.run later).1 →
      ∃ (before after : List Endpoint.Event) (source : SocketAddress) (bytes : Bytes)
        (arrival : Instant) (frame : Frame),
        later = before ++ .datagram source bytes arrival :: after ∧
        (∃ waiter ∈ (asked.run before).2.waiters, waiter.ticket = ticket) ∧
        (asked.run before).2.completes source bytes arrival = some frame ∧
        frame.kind = .response ∧ frame.correlation = e.nextCorrelation ∧
        frame.payload = answer) ∧
    (∀ (h h' : Hosted) (store : Breakable σ) (isTaken : Bool) (now : Instant)
      (before later : List (Moment σ)) (session : Session) (sweep : Sweep) (user : StaleUser)
      (inquiry : Inquiry),
      h.start store isTaken now = (.ok (), h') →
      (h'.passAll before).session = some session → session.sweep = some sweep →
      (user, inquiry) ∈ sweep.entries → inquiry.alive? ≠ some true →
      isUnchanged (h'.passAll before).live.presence user = true →
      (h'.passAll before).Silent user inquiry session.endpoint.waiters later →
      (∃ moment ∈ later, moment.isActive = true ∧
        ∀ waiter ∈ session.endpoint.waiters, waiter.deadline ≤ moment.now) →
      ((h'.passAll before).passAll later).live.presence.Gone user.id) := by
  refine ⟨?_, ?_⟩
  · intro address earlier later network peer payload timeout now ticket sent asked answer e
      hrequest hanswer
    exact Endpoint.answer_numbered ((Endpoint.tidy_fresh address).run earlier) hrequest hanswer
  · intro h h' store isTaken now before later session sweep user inquiry hstart hsession hsweep
      hentry hopen hunchanged hsilent hlate
    have hregular : (h'.passAll before).Regular := (Hosted.start_regular hstart).passAll before
    have hawaits : session.Awaits user inquiry session.endpoint.waiters :=
      ⟨⟨sweep, inquiry, hsweep, hentry, Or.inl rfl⟩, List.Subset.refl _⟩
    exact Hosted.passAll_awaits hregular ⟨⟨session, hsession, hawaits⟩, hunchanged⟩ hopen hsilent
      hlate

/-- A server with short times. -/
def parlour : Hosted :=
  { id := 7001, settings := { bindHost := .v4 ⟨10, 0, 0, 9⟩, timing := ⟨20, 60, 10⟩ } }

/-- A store with a channel of the server and a client who may come. -/
def hall : Breakable Backing := ((Service.blank 7001).run Service.opening).world.store

/-- A moment of the server, on a network that takes everything. -/
def hallMoment (now : Instant) (happening : Happening) : Moment Backing :=
  { store := hall, network := .routed, now, happening }

/-- A client opens the channel, and is asked whether they are there. -/
def fallingQuiet : List (Moment Backing) :=
  [hallMoment 0 (.datagram Service.alice
      (Frame.whole .request 1 (requestPacket .openChannel (⟨1⟩ : OpenRequest))).encode),
   hallMoment 0 .packet, hallMoment 60 .quiet]

/-- Somebody else answers a question with some number, and time goes by. -/
def meddling (number : UInt32) : List (Moment Backing) :=
  [hallMoment 65 (.datagram Service.bob (Frame.whole .response number []).encode),
   hallMoment 70 .quiet]

/-- A request is answered, and a client is taken offline for whom somebody else has
    answered with a wrong number. -/
theorem wrong_number_demotes :
    (∃ (source : SocketAddress) (bytes : Bytes) (arrival : Instant) (frame : Frame),
      Endpoint.Event.datagram source bytes arrival ∈
        [.datagram Service.bob (Frame.whole .response 1 [7]).encode 5] ∧
      frame.correlation = 1 ∧ frame.payload = [7]) ∧
    (((parlour.start hall false 0).2.passAll fallingQuiet).passAll
      (meddling 2)).live.presence.Gone 1 := by
  have hanswers := answered_by_number Backing
  refine ⟨?_, ?_⟩
  · rcases hanswers.1 parlour.address []
      [.datagram Service.bob (Frame.whole .response 1 [7]).encode 5] .routed Service.alice [1] 10 0
      0 _ _ [7] rfl (List.mem_singleton.mpr rfl) with
      ⟨before, after, source, bytes, arrival, frame, hlater, -, -, -, hnumber, hanswer⟩
    refine ⟨source, bytes, arrival, frame, ?_, hnumber, hanswer⟩
    rw [hlater]
    exact List.mem_append_right _ List.mem_cons_self
  · let reached := (parlour.start hall false 0).2.passAll fallingQuiet
    have hasked : reached.session.map (fun session => (session.sweep, session.endpoint.waiters)) =
        some (some ⟨[(⟨1, Service.alice, 0⟩, .waiting 0)]⟩, [⟨0, 1, 70⟩]) := by
      decide +kernel
    rcases Option.map_eq_some_iff.mp hasked with ⟨session, hsession, heq⟩
    rcases Prod.mk.inj heq with ⟨hsweep, hwaiters⟩
    refine hanswers.2 parlour _ hall false 0 fallingQuiet (meddling 2) session _
      ⟨1, Service.alice, 0⟩ (.waiting 0) rfl hsession hsweep List.mem_cons_self ?_ ?_ ?_ ?_
    · simp [Inquiry.alive?]
    · decide +kernel
    · rw [hwaiters, meddling]
      refine ⟨?_, ?_, ?_, ?_, trivial⟩
      · decide +kernel
      · decide +kernel
      · decide +kernel
      · decide +kernel
    · rw [hwaiters]
      refine ⟨hallMoment 70 .quiet, List.mem_cons_of_mem _ List.mem_cons_self, rfl, ?_⟩
      decide

/-- Another port at the IP address of the client. -/
def alicesOther : SocketAddress := { Service.alice with port := 6000 }

/-- The client asks for the channels from another port, and answers nothing. -/
def calling : List (Moment Backing) :=
  [hallMoment 65 (.datagram alicesOther
      (Frame.whole .request 2 (requestPacket .serverInfo ())).encode),
   hallMoment 65 .packet, hallMoment 70 .quiet]

/-- The address of a request is not looked at when its answer comes in. A request is
    answered from another address, and a client who is asked and sends nothing stays
    online because somebody else has answered. So does a client who is asked and does not
    answer, because a packet has come in from another port of theirs. -/
theorem stranger_answers :
    ((Endpoint.request .routed { address := parlour.address } Service.alice [1] 10 0).1 = .ok 0 ∧
      ((Endpoint.request .routed { address := parlour.address } Service.alice [1] 10 0).2.2.run
        [.datagram Service.bob (Frame.whole .response 1 [7]).encode 5]).1 = [⟨0, some [7]⟩]) ∧
    Service.bob ≠ Service.alice ∧ alicesOther ≠ Service.alice ∧
    ((parlour.start hall false 0).2.passAll fallingQuiet).session.map Session.asked =
      some [⟨1, Service.alice, 0⟩] ∧
    ∀ later ∈ [meddling 1, calling],
      (∀ moment ∈ later, ∀ bytes, moment.happening ≠ .datagram Service.alice bytes) ∧
      (((parlour.start hall false 0).2.passAll fallingQuiet).passAll later).session.map
        Session.asked = some [] ∧
      ((((parlour.start hall false 0).2.passAll fallingQuiet).passAll later).live.presence.get?
        1).map (·.online) = some true := by
  refine ⟨⟨rfl, rfl⟩, by decide, by decide, by decide +kernel, ?_⟩
  intro later hlater
  rcases List.mem_pair.mp hlater with rfl | rfl
  · refine ⟨?_, by decide +kernel, by decide +kernel⟩
    intro moment hmoment bytes
    rcases List.mem_pair.mp hmoment with rfl | rfl <;>
      simp [hallMoment, Service.bob, Service.alice]
  · refine ⟨?_, by decide +kernel, by decide +kernel⟩
    intro moment hmoment bytes
    simp only [calling, List.mem_cons, List.not_mem_nil, or_false] at hmoment
    rcases hmoment with rfl | rfl | rfl <;> simp [hallMoment, alicesOther, Service.alice]

end ChatHost
