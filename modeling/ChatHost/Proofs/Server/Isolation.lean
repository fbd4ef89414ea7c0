import ChatHost.Proofs.Broadcast.FanOut
import ChatHost.Proofs.Server.Acceptance

/-!
# Isolation

Servers share a store, and none of them lets out what belongs to another.

The store does not see to this. A channel is asked for by its id alone, and so
are the messages in it and the place where a message is put. What keeps servers
apart is that a handler looks the channel up first, among those of its own
server, and that a user comes to look at a channel in no other way. Pushes look
nothing up: they go by the channel that a user looks at and by the queue. So
both must hold channels of the server only, at all times, and that is an
invariant (`World.Confined`). It is kept because channels are never taken away
(`StoreRequest.run_hosts`): what was found once stays true.

What goes out is of few kinds, and `Discreet` lists them with what each may
contain. That nothing else is ever answered is a case analysis over the courses
of a request.

## Main definitions

* `Tracker.Views`: Users look only at what they may look at.
* `World.Confined`: Users look only at channels of the server, and only messages
  in such channels are queued.
* `Discreet`: Answers that tell nothing of other servers.

## Theorems

* `World.Confined.course`: Every course of a request keeps a world confined.
* `Service.run_confined`: So does every history.
* `Course.discreet`: Every answer is discreet.
* `Service.isolated`: What a server shares with others, over all histories.
-/

namespace ChatHost

open LawfulGateway

namespace Tracker

/-- Users look only at channels that they may look at. -/
def Views (t : Tracker) (allowed : ChannelId → Prop) : Prop :=
  ∀ user ∈ t.users, ∀ channel, user.channel = some channel → allowed channel

namespace Views

variable {t : Tracker} {allowed : ChannelId → Prop}

theorem mono {more : ChannelId → Prop} (h : t.Views allowed)
    (hmore : ∀ channel, allowed channel → more channel) : t.Views more :=
  fun user hu channel hchannel => hmore channel (h user hu channel hchannel)

theorem modify (h : t.Views allowed) (id : UserId) {f : TrackedUser → TrackedUser}
    (hf : ∀ user channel, (f user).channel = some channel →
      user.channel = some channel ∨ allowed channel) : (t.modify id f).Views allowed := by
  intro user hu channel hchannel
  rcases List.mem_map.mp hu with ⟨old, hold, rfl⟩
  by_cases hid : old.id = id
  · rw [if_pos hid] at hchannel
    rcases hf old channel hchannel with hsame | hallowed
    · exact h old hold channel hsame
    · exact hallowed
  · rw [if_neg hid] at hchannel
    exact h old hold channel hchannel

theorem markOnline (h : t.Views allowed) (id : UserId) (address : SocketAddress)
    (now : Instant) : (t.markOnline id address now).Views allowed :=
  h.modify id fun _ _ hchannel => Or.inl hchannel

theorem markOffline (h : t.Views allowed) (id : UserId) : (t.markOffline id).Views allowed :=
  h.modify id fun _ _ hchannel => by simp at hchannel

theorem touch (h : t.Views allowed) (id : UserId) (address : SocketAddress) (now : Instant) :
    (t.touch id address now).Views allowed :=
  h.modify id fun _ _ hchannel => Or.inl hchannel

theorem setChannel (h : t.Views allowed) (id : UserId) {channel : ChannelId}
    (hallowed : allowed channel) : (t.setChannel id channel).Views allowed := by
  refine h.modify id ?_
  intro _ other hother
  rw [← Option.some.inj hother]
  exact Or.inr hallowed

theorem setRole (h : t.Views allowed) (username : String) (role : Role) :
    (t.setRole username role).Views allowed := by
  intro user hu channel hchannel
  rcases List.mem_map.mp hu with ⟨old, hold, rfl⟩
  refine h old hold channel ?_
  by_cases hname : old.username.text = username
  · rwa [if_pos hname] at hchannel
  · rwa [if_neg hname] at hchannel

theorem insert (h : t.Views allowed) {user : TrackedUser} (huser : user.channel = none) :
    (t.insert user).Views allowed := by
  intro other hother channel hchannel
  rcases mem_insertUser hother with rfl | hother
  · rw [huser] at hchannel
    simp at hchannel
  · exact h other hother channel hchannel

theorem empty : Tracker.empty.Views allowed := fun _ hu => absurd hu (by simp [Tracker.empty])

-- A server that starts has users who look at nothing yet.
theorem load (records : List UserRecord) (now : Instant) :
    (Tracker.load records now).Views allowed := by
  refine load_induction (P := fun t => t.Views allowed) records now empty ?_
  exact fun t record ht => ht.insert rfl

theorem applyHeartbeats (now : Instant) (results : List (StaleUser × Bool))
    (h : t.Views allowed) : (applyHeartbeats now results t).1.Views allowed := by
  induction results generalizing t with
  | nil => exact h
  | cons result rest ih =>
      rcases result with ⟨user, alive⟩
      have hfirst : (applyHeartbeat now t user alive).Views allowed := by
        rcases applyHeartbeat_cases now t user alive with hsame | honline | hoffline
        · rw [hsame]
          exact h
        · rw [honline]
          exact h.markOnline _ _ _
        · rw [hoffline]
          exact h.markOffline _
      exact ih hfirst

end Views

end Tracker

section Worlds

variable {σ : Type} [Gateway σ] [LawfulGateway σ] {server : ServerId}

-- What each operation keeps, all of them keep.
theorem StoreRequest.runAll_keeps {P : σ → Prop}
    (hrun : ∀ (s : σ) (request : StoreRequest), Orderly s → P s → P (request.run s).2) {s : σ}
    (hs : Orderly s) (h : P s) (calls : List StoreRequest) :
    Orderly (runAll s calls) ∧ P (runAll s calls) := by
  induction calls generalizing s with
  | nil => exact ⟨hs, h⟩
  | cons call rest ih => exact ih (call.run_grows hs).orderly (hrun s call hs h)

-- A channel that a handler finds is a channel of the server.
theorem World.hosts_of_ownsChannel {w : World σ} (hw : Orderly w.store) {channel : ChannelId}
    (h : w.ownsChannel server channel = .ok true) : Hosts w.store server channel := by
  rw [ownsChannel] at h
  rcases hfound : Gateway.selectChannels w.store { id := some channel, server := some server } with
    fault | found
  · simp [hfound, Except.map] at h
  · rcases found with _ | ⟨c, rest⟩
    · simp [hfound, Except.map] at h
    · have hc := List.mem_cons_self (a := c) (l := rest)
      rw [selectChannels_ok hw hfound, List.mem_filter] at hc
      have hadmits := hc.2
      simp only [ChannelFilter.admits, agrees, Bool.and_true, Bool.and_eq_true,
        decide_eq_true_eq] at hadmits
      exact ⟨c, hc.1, hadmits.1.symm, hadmits.2.symm⟩

/-- Users look only at channels of the server, and only messages in such channels
    are queued. -/
structure World.Confined (server : ServerId) (w : World σ) : Prop where
  viewing : w.live.presence.Views (Hosts w.store server)
  queued : ∀ m ∈ w.live.queue, Hosts w.store server m.channel

namespace World.Confined

variable {w w' : World σ} {request : Request} {handler : Handler} {calls : List StoreRequest}
  {reply : Except HandlerError Reply}

-- A world with another store in which everything that was hosted still is.
theorem of_kept (h : Confined server w)
    (hkept : ∀ channel, Hosts w.store server channel → Hosts w'.store server channel)
    (hviewing : w'.live.presence.Views (Hosts w.store server))
    (hqueue : w'.live.queue = w.live.queue) : Confined server w' where
  viewing := hviewing.mono hkept
  queued m hm := by
    rw [hqueue] at hm
    exact hkept _ (h.queued m hm)

theorem touch (h : Confined server w) (peer : SocketAddress) (now : Instant) :
    Confined server (w.touch peer now) := by
  rw [World.touch]
  split
  · exact h.of_kept (fun _ hhosts => hhosts) (h.viewing.touch _ _ _) rfl
  · exact h

/-- Every course of a request keeps a world confined. -/
theorem course (h : Confined server w) (hw : Orderly w.store)
    (hcourse : Course server request w handler calls reply w') : Confined server w' := by
  have hkept : ∀ channel, Hosts w.store server channel → Hosts w'.store server channel := by
    intro channel hhosts
    rw [hcourse.store_eq]
    exact (StoreRequest.runAll_keeps (fun _ call hs h => call.run_hosts hs h) hw hhosts calls).2
  -- Who opens a channel looks at it from then on.
  have hopen : ∀ {id : UserId} {channel : ChannelId}, w.ownsChannel server channel = .ok true →
      ((w.live.presence.setChannel id channel).markOnline id request.peer request.now).Views
        (Hosts w.store server) := by
    intro id channel howns
    exact (h.viewing.setChannel id (hosts_of_ownsChannel hw howns)).markOnline _ _ _
  cases hcourse with
  | joined hdecode hstore => exact h.of_kept hkept (h.viewing.insert rfl) rfl
  | historyFailed hdecode howns hfound hstore => exact h.of_kept hkept (hopen howns) rfl
  | opened hdecode howns hfound hstore => exact h.of_kept hkept (hopen howns) rfl
  | said hdecode howns hfound honline hstore =>
      refine ⟨(h.viewing.markOnline _ _ _).mono hkept, ?_⟩
      intro m hm
      rcases List.mem_append.mp hm with hm | hm
      · exact hkept _ (h.queued m hm)
      · rw [List.mem_singleton.mp hm]
        exact hkept _ (hosts_of_ownsChannel hw howns)
  | joinFailed hdecode hstore => exact h.of_kept hkept h.viewing rfl
  | sayFailed hdecode howns hfound honline hstore => exact h.of_kept hkept h.viewing rfl
  | createFailed hdecode hstore => exact h.of_kept hkept h.viewing rfl
  | created hdecode hstore => exact h.of_kept hkept h.viewing rfl
  | _ => exact h

end World.Confined

/-- Answers that tell a peer nothing of other servers: refusals and mere consent,
    the caller's own rights, channels of the server, and to a user of the server
    what was said in such a channel. -/
inductive Discreet (s : σ) (server : ServerId) (peer : SocketAddress) : Handler → Bytes → Prop
  | refusal {handler : Handler} {packet : Bytes} (hrefusal : handler.refusal? = some packet) :
      Discreet s server peer handler packet
  | consent {handler : Handler} (hhandler : handler = .join ∨ handler = .createChannel) :
      Discreet s server peer handler (responsePacket handler.kind .success ())
  | rights (membership : Membership) :
      Discreet s server peer .membership (responsePacket .membership .success membership)
  | channels {handler : Handler} {rows : List Channel}
      (hhandler : handler = .serverInfo ∨ handler = .adminMenu)
      (hrows : ∀ c ∈ rows, c ∈ (records s).channels ∧ c.server = server) :
      Discreet s server peer handler (responsePacket handler.kind .success rows)
  | history {channel : ChannelId} {rows : List Message} {id : UserId}
      (hhosts : Hosts s server channel)
      (hrows : ∀ m ∈ rows, m ∈ (records s).messages ∧ m.channel = channel)
      (hknown : Known s server id peer.ip) :
      Discreet s server peer .openChannel
        (responsePacket .openChannel .success (rows.map Message.row))

/-- Every answer is discreet. -/
theorem Course.discreet {w w' : World σ} {request : Request} {handler : Handler}
    {calls : List StoreRequest} {packet : Bytes} (hw : World.Sound server w)
    (h : Course server request w handler calls (.ok (.answer packet)) w') :
    Discreet w.store server request.peer handler packet := by
  cases h with
  | refused hhandler hrefusal => exact .refusal hrefusal
  | joinFailed hdecode hstore => exact .refusal rfl
  | joined hdecode hstore => exact .consent (Or.inl rfl)
  | listFailed hhandler hstore => rcases hhandler with rfl | rfl <;> exact .refusal rfl
  | @listed _ channels hhandler hstore =>
      refine .channels hhandler ?_
      intro c hc
      rw [selectChannels_ok hw.orderly hstore, List.mem_filter] at hc
      have hadmits := hc.2
      simp only [ChannelFilter.admits, agrees, Bool.true_and, decide_eq_true_eq] at hadmits
      exact ⟨hc.1, hadmits.symm⟩
  | historyFailed hdecode howns hfound hstore => exact .refusal rfl
  | @opened channel user messages hdecode howns hfound hstore =>
      rcases Tracker.find?_ip hw.presence.users hfound with ⟨hmem, hip⟩
      have hknown := hw.known _ (Tracker.mem_roster hmem)
      rw [hip] at hknown
      refine .history (World.hosts_of_ownsChannel hw.orderly howns) ?_ hknown
      intro m hm
      rw [selectMessages_ok hw.orderly hstore, admits_channel, inChannel, List.mem_filter] at hm
      exact ⟨hm.1, of_decide_eq_true hm.2⟩
  | rightsFailed hstore => exact .refusal rfl
  | rightsTold hstore => exact .rights _
  | createFailed hdecode hstore => exact .refusal rfl
  | created hdecode hstore => exact .consent (Or.inr rfl)

-- What is queued on the way is said by a user of the server in a channel of it.
theorem Course.queues {w w' : World σ} {request : Request} {handler : Handler}
    {calls : List StoreRequest} {reply : Except HandlerError Reply} (hw : World.Sound server w)
    (h : Course server request w handler calls reply w') :
    ∃ added : List Message, w'.live.queue = w.live.queue ++ added ∧
      ∀ m ∈ added, Hosts w.store server m.channel ∧ ∃ ip, Known w.store server m.sender ip := by
  cases h with
  | @said channel text sender receipt _ hdecode howns hfound honline hstore =>
      refine ⟨[receipt.message channel sender.id text], rfl, ?_⟩
      intro m hm
      rw [List.mem_singleton.mp hm]
      have hmem := (Tracker.find?_ip hw.presence.users hfound).1
      exact ⟨World.hosts_of_ownsChannel hw.orderly howns, sender.ip,
        hw.known _ (Tracker.mem_roster hmem)⟩
  | _ => exact ⟨[], (List.append_nil _).symm, fun m hm => absurd hm (by simp)⟩

end Worlds

namespace Service

section Confining

variable {σ : Type} [Gateway σ] [LawfulGateway σ] {s : Service σ}

/-- Whatever comes to pass keeps a server confined. -/
theorem step_confined (hs : Orderly s.world.store) (h : World.Confined s.server s.world)
    (o : Occurrence) : World.Confined s.server (s.step o).world := by
  cases o with
  | packet peer payload =>
      rcases dispatch_cases s.server peer payload s.clock s.world with
        ⟨-, hsame⟩ | ⟨handler, body, hheader⟩
      · rw [step, hsame]
        exact h
      · rcases s.packet_course peer hheader with ⟨reply, hcourse, -⟩
        exact (h.touch peer s.clock).course (by rwa [World.touch_store]) hcourse
  | wait ms => exact h
  | broadcast accepts => exact ⟨h.viewing, fun m hm => absurd hm List.not_mem_nil⟩
  | ask staleAfter => exact h
  | settle alive => exact ⟨h.viewing.applyHeartbeats _ _, h.queued⟩
  | grant username role =>
      have hkept : ∀ channel, Hosts s.world.store s.server channel →
          Hosts (Gateway.updateRole s.world.store s.server username role).2 s.server channel :=
        fun channel => (StoreRequest.updateRole s.server username role).run_hosts hs
      refine h.of_kept hkept ?_ rfl
      simp only [step]
      split
      · exact h.viewing.setRole username role
      · exact h.viewing
  | elsewhere request => exact h.of_kept (fun channel => request.run_hosts hs) h.viewing rfl
  | outage broken => exact ⟨h.viewing, h.queued⟩

/-- A server that is confined stays confined. -/
theorem run_confined (hs : s.Sound) (h : World.Confined s.server s.world)
    (history : List Occurrence) :
    World.Confined (s.run history).server (s.run history).world := by
  have hstep : ∀ (t : Service σ) (o : Occurrence),
      t.Sound ∧ World.Confined t.server t.world →
      (t.step o).Sound ∧ World.Confined (t.step o).server (t.step o).world := by
    rintro t o ⟨ht, hconfined⟩
    rw [t.step_server o]
    exact ⟨ht.step o, step_confined ht.world.orderly hconfined o⟩
  exact (run_invariant _ hstep s history ⟨hs, h⟩).2

-- A server that has just started is confined: nobody looks at anything.
theorem Started.confined (h : s.Started) : World.Confined s.server s.world where
  viewing := by
    have hviews : s.presence.Views (Hosts s.world.store s.server) := by
      rcases h.presence with hempty | ⟨found, now, -, -, hload⟩
      · rw [hempty]
        exact Tracker.Views.empty
      · rw [hload]
        exact Tracker.Views.load found now
    exact hviews
  queued m hm := by
    have hqueue : s.world.live.queue = [] := h.queue
    rw [hqueue] at hm
    exact absurd hm List.not_mem_nil

-- Whatever is answered is discreet.
theorem answer_discreet (hs : s.Sound) {peer : SocketAddress} {payload answer : Bytes}
    (h : s.answer? (.packet peer payload) = some answer) :
    ∃ (handler : Handler) (body : Bytes),
      RequestHeader.decode payload = (.ok ⟨handler.kind⟩, body) ∧
      Discreet s.world.store s.server peer handler answer := by
  rcases dispatch_cases s.server peer payload s.clock s.world with
    ⟨hnone, -⟩ | ⟨handler, body, hheader⟩
  · rw [answer?, hnone] at h
    simp at h
  · rcases s.packet_course peer hheader with ⟨reply, hcourse, hanswer⟩
    rw [h] at hanswer
    rw [Dispatched.answer?_handled hanswer.symm] at hcourse
    have hdiscreet := hcourse.discreet (hs.world.touch peer s.clock)
    rw [World.touch_store] at hdiscreet
    exact ⟨handler, body, hheader, hdiscreet⟩

-- Whatever is accepted is said by a user of the server in a channel of it.
theorem accepted_confined (hs : s.Sound) (peer : SocketAddress) (payload : Bytes) :
    ∀ m ∈ s.accepted (.packet peer payload), Hosts s.world.store s.server m.channel ∧
      ∃ ip, Known s.world.store s.server m.sender ip := by
  have hqueue := (packet_adds hs.world.orderly peer payload).2.1
  rcases dispatch_cases s.server peer payload s.clock s.world with
    ⟨-, hsame⟩ | ⟨handler, body, hheader⟩
  · have hnone : s.queue = s.queue ++ s.accepted (.packet peer payload) := by
      rw [← hqueue, queue, queue, step, hsame]
    intro m hm
    rw [List.self_eq_append_right.mp hnone] at hm
    exact absurd hm List.not_mem_nil
  · rcases s.packet_course peer hheader with ⟨reply, hcourse, -⟩
    rcases hcourse.queues (hs.world.touch peer s.clock) with ⟨added, hadded, hconfined⟩
    rw [World.touch_queue] at hadded
    rw [World.touch_store] at hconfined
    rw [queue, queue, hadded] at hqueue
    rwa [← List.append_cancel_left hqueue]

-- Whatever is tried to be pushed is news of the server for a user of the server.
theorem attempts_confined (hs : s.Sound) (h : World.Confined s.server s.world)
    (accepts : Nat → SocketAddress → Bool) :
    ∀ attempt ∈ s.attempts (.broadcast accepts),
      (∃ batch : List Message, attempt.packet = pushPacket batch ∧
        ∀ m ∈ batch, m ∈ s.queue ∧ Hosts s.world.store s.server m.channel) ∧
      ∃ id, Known s.world.store s.server id attempt.peer.ip := by
  intro attempt hattempt
  have hdelivery := List.mem_map_of_mem (f := fun a : Attempt => (a.peer, a.packet)) hattempt
  rw [attempts, Live.fanOut, attemptAll_deliveries] at hdelivery
  rcases mem_deliveries_batch hdelivery with
    ⟨channel, batch, hpacket, -, hnews, user, hmem, -, haddress⟩
  refine ⟨⟨batch, hpacket, ?_⟩, user.id, ?_⟩
  · intro m hm
    have hqueued := (List.mem_filter.mp (hnews m hm)).1
    exact ⟨hqueued, h.queued m hqueued⟩
  · rw [(hs.world.presence.users user hmem).located _ haddress]
    exact hs.world.known _ (Tracker.mem_roster hmem)

-- Whatever names no channel of the server is a sign of life and nothing else.
theorem foreign_ignored (hs : s.Sound) {peer : SocketAddress} {payload body : Bytes}
    {handler : Handler} {channel : ChannelId}
    (hheader : RequestHeader.decode payload = (.ok ⟨handler.kind⟩, body))
    (hnamed : handler.named? body = some channel)
    (hforeign : ¬ Hosts s.world.store s.server channel) :
    s.answer? (.packet peer payload) = none ∧
      s.step (.packet peer payload) = { s with world := s.world.touch peer s.clock } := by
  rcases s.packet_course peer hheader with ⟨reply, hcourse, hanswer⟩
  have howns : (s.world.touch peer s.clock).ownsChannel s.server channel ≠ .ok true := by
    intro howns
    have hhosts := World.hosts_of_ownsChannel (hs.world.touch peer s.clock).orderly howns
    rw [World.touch_store] at hhosts
    exact hforeign hhosts
  rcases hcourse.drops hnamed howns with ⟨⟨error, rfl⟩, hworld⟩
  refine ⟨hanswer, ?_⟩
  rw [← hworld]
  rfl

/-- What a server that shares its store has to do with others: nothing. -/
structure Isolated (s : Service σ) : Prop where
  /-- Users look at channels of the server. -/
  viewing : ∀ user ∈ s.presence.users, ∀ channel, user.channel = some channel →
    Hosts s.world.store s.server channel
  /-- What is queued is stored in channels of the server. -/
  queued : ∀ m ∈ s.queue, m ∈ s.stored ∧ Hosts s.world.store s.server m.channel
  /-- What a packet stores goes into a channel of the server, from a user of it. -/
  accepted : ∀ (peer : SocketAddress) (payload : Bytes),
    ∀ m ∈ s.accepted (.packet peer payload), Hosts s.world.store s.server m.channel ∧
      ∃ ip, Known s.world.store s.server m.sender ip
  /-- What is answered tells the sender nothing of other servers. -/
  answered : ∀ (peer : SocketAddress) (payload answer : Bytes),
    s.answer? (.packet peer payload) = some answer →
      ∃ (handler : Handler) (body : Bytes),
        RequestHeader.decode payload = (.ok ⟨handler.kind⟩, body) ∧
        Discreet s.world.store s.server peer handler answer
  /-- What is pushed was said in channels of the server, and goes to users of it. -/
  pushed : ∀ (accepts : Nat → SocketAddress → Bool),
    ∀ attempt ∈ s.attempts (.broadcast accepts),
      (∃ batch : List Message, attempt.packet = pushPacket batch ∧
        ∀ m ∈ batch, m ∈ s.stored ∧ Hosts s.world.store s.server m.channel) ∧
      ∃ id, Known s.world.store s.server id attempt.peer.ip
  /-- A request that names no channel of the server is a sign of life, and nothing
      else. -/
  ignored : ∀ (peer : SocketAddress) (payload body : Bytes) (handler : Handler)
    (channel : ChannelId), RequestHeader.decode payload = (.ok ⟨handler.kind⟩, body) →
    handler.named? body = some channel → ¬ Hosts s.world.store s.server channel →
    s.answer? (.packet peer payload) = none ∧
      s.step (.packet peer payload) = { s with world := s.world.touch peer s.clock }

end Confining

/-- Whatever else is in its store and whatever comes to pass, a server that has
    just started stays isolated. -/
theorem isolated (s : Service Backing) (hs : s.Started) (history : List Occurrence) :
    (s.run history).server = s.server ∧ (s.run history).Isolated := by
  have hsound := hs.sound.run history
  have hconfined := run_confined hs.sound hs.confined history
  -- What is queued was accepted, and what was accepted is stored.
  have hstored : ∀ m ∈ (s.run history).queue, m ∈ (s.run history).stored := by
    intro m hm
    have haccepted := (queue_sublist_accepted hs.orderly hs.queue history).subset hm
    exact (accepted_sublist_stored hs.orderly history).subset (List.mem_append_right _ haccepted)
  refine ⟨s.run_server history, ?_⟩
  constructor
  case viewing => exact hconfined.viewing
  case queued => exact fun m hm => ⟨hstored m hm, hconfined.queued m hm⟩
  case accepted => exact accepted_confined hsound
  case answered => exact fun _ _ _ hanswer => answer_discreet hsound hanswer
  case pushed =>
    intro accepts attempt hattempt
    rcases attempts_confined hsound hconfined accepts attempt hattempt with
      ⟨⟨batch, hpacket, hbatch⟩, hknown⟩
    refine ⟨⟨batch, hpacket, ?_⟩, hknown⟩
    intro m hm
    exact ⟨hstored m (hbatch m hm).1, (hbatch m hm).2⟩
  case ignored =>
    intro peer payload body handler channel hheader hnamed hforeign
    exact foreign_ignored hsound hheader hnamed hforeign

/-- A user of another server has said something in a channel there. -/
def neighbours : List StoreRequest :=
  [.insertServer 7002, .insertUser 7002 (.v4 ⟨10, 0, 0, 9⟩) ⟨"carol", by decide⟩,
   .insertChannel ⟨"vault", by decide⟩ 7002, .insertMessage "secret" 1 1]

/-- A server that starts on a store in memory with records of another one. -/
def sharing : Service Backing :=
  { server := 7001, world := { store := ⟨StoreRequest.runAll (.memory .empty) neighbours, []⟩ } }

-- A store stays filled while operations are done.
theorem filled_runAll {b : Backing} (h : b.Filled) (calls : List StoreRequest) :
    (StoreRequest.runAll b calls).Filled := by
  induction calls generalizing b with
  | nil => exact h
  | cons call rest ih => exact ih (.run call h)

/-- A client joins the server, makes a channel and opens it. -/
def settling : List Occurrence :=
  opening.dropLast ++ [.packet alice (requestPacket .openChannel (⟨2⟩ : OpenRequest))]

/-- The client does not get to see the channel of the other server. -/
theorem vault_stays_closed :
    sharing.Started ∧ (sharing.run settling).stored.map (·.text) = ["secret"] ∧
      (sharing.run settling).answer?
        (.packet alice (requestPacket .openChannel (⟨2⟩ : OpenRequest))) ≠ none ∧
      (sharing.run settling).answer?
        (.packet alice (requestPacket .openChannel (⟨1⟩ : OpenRequest))) = none := by
  have hfilled : (StoreRequest.runAll (.memory .empty) neighbours : Backing).Filled :=
    filled_runAll .memory neighbours
  have hstarted : sharing.Started := ⟨hfilled.orderly, rfl, rfl, Or.inl rfl⟩
  have hisolated := (isolated sharing hstarted settling).2
  refine ⟨hstarted, by decide +kernel, by decide +kernel, ?_⟩
  refine (hisolated.ignored alice _ _ .openChannel 1 rfl rfl ?_).1
  unfold Hosts
  decide +kernel

end Service

end ChatHost
