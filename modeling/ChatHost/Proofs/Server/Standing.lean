import ChatHost.Proofs.Server.Isolation
import ChatHost.Proofs.Server.Sweeps

/-!
# Coming and Going

When a user is online, and what it means not to be.

A user has two ways to change their standing, one in each direction. They come by
opening a channel: no other packet of theirs takes them online, not even one that
joins, and no packet at all takes them offline. They go by not answering: a sweep
has asked them after a silence, and no response has come. Everything that can happen
to a user's standing at one step is said once (`Service.step_standing`), and the
runs rest on it.

A tick is three occurrences: the queue is emptied, silent users are asked, and the
results are in. A complete tick has nothing in between but time. Here packets may
come in between as well, which is how a server really runs, so a result says which
question it belongs to: the last one before it (`Service.asked_from`).

An offline user may have an address, since every packet of theirs is noted as a sign
of life. It does not matter. Nobody is pushed to or asked who is not online, and
nobody can say anything who is not online (`Service.unreached`). So all that goes to
or comes from the IP address of an offline user, until they open a channel, is
answers to their requests.

## Main definitions

* `Service.Opens`: Someone at an IP address opens a channel of the server.
* `Service.Demotes`: A sweep ends that a user has not answered.

## Theorems

* `World.touch_standing`, `Course.standing`: What a packet does to a user's standing.
* `Service.step_standing`: What any step does to it.
* `Service.asked_from`: Which users are being asked.
* `Service.unreached`: What does not happen to an offline user.
* `Service.stays_offline`: How long they stay offline.
* `Service.coming_and_going`: Online and offline, over all histories.
-/

namespace ChatHost

open LawfulGateway

section Standing

variable {σ : Type} [Gateway σ] [LawfulGateway σ] {server : ServerId} {w w' : World σ}
variable {id : UserId} {user : TrackedUser}

/-- A request can be read as one for a channel that the server has. -/
def Request.Opens (server : ServerId) (store : σ) (request : Request) : Prop :=
  ∃ channel, (Payload.decode : Decoder OpenRequest).value request.payload = .ok ⟨channel⟩ ∧
    Hosts store server channel

omit [Gateway σ] [LawfulGateway σ] in
-- A sign of life takes nobody online or offline.
theorem World.touch_standing (huser : w.live.presence.get? id = some user)
    (peer : SocketAddress) (now : Instant) :
    ∃ user', (w.touch peer now).live.presence.get? id = some user' ∧ user'.ip = user.ip ∧
      user'.online = user.online := by
  rw [touch]
  split
  · next caller hcaller =>
    refine ⟨_, Tracker.get?_modify_some ?_ huser caller.id, ?_, ?_⟩
    · exact fun _ => rfl
    · split <;> rfl
    · split <;> rfl
  · exact ⟨user, huser, rfl, rfl⟩

-- Whoever is found behind an address and has the id of a user is that user.
theorem World.Sound.caller_eq (hw : World.Sound server w) {peer : SocketAddress}
    {caller : TrackedUser} (hfound : w.live.presence.find? peer = some caller)
    (huser : w.live.presence.get? caller.id = some user) : caller = user ∧ peer.ip = user.ip := by
  rcases Tracker.find?_ip hw.presence.users hfound with ⟨hmem, hip⟩
  have hsame := (hw.presence.get?_id hmem).symm.trans huser
  rw [← Option.some.inj hsame]
  exact ⟨rfl, hip.symm⟩

-- Who opens a channel of the server goes online, and nobody else does.
theorem World.Sound.opened_standing (hw : World.Sound server w) {request : Request}
    {channel : ChannelId} {opener : TrackedUser}
    (hdecode : (Payload.decode : Decoder OpenRequest).value request.payload = .ok ⟨channel⟩)
    (howns : w.ownsChannel server channel = .ok true)
    (hfound : w.live.presence.find? request.peer = some opener)
    (huser : w.live.presence.get? id = some user) :
    ∃ user', ((w.live.presence.setChannel opener.id channel).markOnline opener.id request.peer
        request.now).get? id = some user' ∧ user'.ip = user.ip ∧
      (user'.online = user.online ∨
        user'.online = true ∧ request.peer.ip = user.ip ∧ request.Opens server w.store) := by
  rw [Tracker.openChannel_eq]
  refine ⟨_, Tracker.get?_modify_some ?_ huser opener.id, ?_, ?_⟩
  · exact fun _ => rfl
  · split <;> rfl
  · by_cases hid : id = opener.id
    · subst hid
      rw [if_pos rfl]
      exact Or.inr ⟨rfl, (hw.caller_eq hfound huser).2, channel, hdecode,
        World.hosts_of_ownsChannel hw.orderly howns⟩
    · rw [if_neg hid]
      exact Or.inl rfl

/-- What a request does to the standing of a user: nothing, unless it opens a channel of
    the server, and then it comes from the IP address of who goes online. -/
theorem Course.standing (hw : World.Sound server w) {request : Request} {handler : Handler}
    {calls : List StoreRequest} {reply : Except HandlerError Reply}
    (h : Course server request w handler calls reply w')
    (huser : w.live.presence.get? id = some user) :
    ∃ user', w'.live.presence.get? id = some user' ∧ user'.ip = user.ip ∧
      (user'.online = user.online ∨ user'.online = true ∧ handler = .openChannel ∧
        request.peer.ip = user.ip ∧ request.Opens server w.store) := by
  cases h with
  | @joined username record store hdecode hstore =>
      -- Nobody is tracked yet under the id of who joins.
      have hnew : record.id ≠ id := by
        rintro rfl
        rw [hw.get?_newcomer hstore] at huser
        exact absurd huser (by simp)
      refine ⟨user, ?_, rfl, Or.inl rfl⟩
      exact (Tracker.get?_insert _ id).trans ((if_neg hnew).trans huser)
  | historyFailed hdecode howns hfound hstore =>
      rcases hw.opened_standing hdecode howns hfound huser with ⟨user', huser', hip, honline⟩
      exact ⟨user', huser', hip, honline.imp_right fun ⟨hon, hfrom, hopens⟩ =>
        ⟨hon, rfl, hfrom, hopens⟩⟩
  | opened hdecode howns hfound hstore =>
      rcases hw.opened_standing hdecode howns hfound huser with ⟨user', huser', hip, honline⟩
      exact ⟨user', huser', hip, honline.imp_right fun ⟨hon, hfrom, hopens⟩ =>
        ⟨hon, rfl, hfrom, hopens⟩⟩
  | @said channel text sender receipt store hdecode howns hfound honline hstore =>
      refine ⟨_, Tracker.get?_modify_some ?_ huser sender.id, ?_, Or.inl ?_⟩
      · exact fun _ => rfl
      · split <;> rfl
      · by_cases hid : id = sender.id
        · subst hid
          rw [if_pos rfl, ← (hw.caller_eq hfound huser).1, honline]
        · rw [if_neg hid]
  | _ => exact ⟨user, huser, rfl, Or.inl rfl⟩

-- Whoever joins is offline.
theorem Course.newcomer (hw : Orderly w.store) {request : Request} {handler : Handler}
    {calls : List StoreRequest} {reply : Except HandlerError Reply}
    (h : Course server request w handler calls reply w')
    (hnone : w.live.presence.get? id = none) (huser : w'.live.presence.get? id = some user) :
    user.online = false := by
  rcases h.enrolls hw with ⟨hroster, -⟩ | ⟨username, record, store, -, -, -, rfl⟩
  · rw [Tracker.get?_none_of_roster hroster hnone] at huser
    exact absurd huser (by simp)
  · have hinsert := (Tracker.get?_insert _ id).symm.trans huser
    split at hinsert
    · rw [← Option.some.inj hinsert]
      rfl
    · rw [hnone] at hinsert
      exact absurd hinsert (by simp)

/-- What a request of somebody offline says is not queued. -/
theorem Course.silenced (hw : World.Sound server w) {request : Request} {handler : Handler}
    {calls : List StoreRequest} {reply : Except HandlerError Reply}
    (h : Course server request w handler calls reply w') (huser : user ∈ w.live.presence.users)
    (hoffline : user.online = false) (hip : request.peer.ip = user.ip) :
    w'.live.queue = w.live.queue := by
  cases h with
  | said hdecode howns hfound honline hstore =>
      rcases Tracker.find?_ip hw.presence.users hfound with ⟨hmem, hfrom⟩
      have hsame := Tracker.eq_of_ip hw.presence.apart hmem huser (hfrom.trans hip)
      rw [hsame, hoffline] at honline
      exact absurd honline Bool.false_ne_true
  | _ => rfl

end Standing

-- Whoever is asked once has one result at most.
theorem nodup_results {asked : List StaleUser} (h : (asked.map (·.id)).Nodup)
    (alive : List Bool) : ((asked.zip alive).map fun result => result.1.id).Nodup := by
  induction asked generalizing alive with
  | nil => exact List.nodup_nil
  | cons entry rest ih =>
      rw [List.map_cons, List.nodup_cons] at h
      cases alive with
      | nil => exact List.nodup_nil
      | cons first later =>
          rw [List.zip_cons_cons, List.map_cons, List.nodup_cons]
          refine ⟨fun hmem => h.1 ?_, ih h.2 later⟩
          rcases List.mem_map.mp hmem with ⟨result, hresult, hid⟩
          exact List.mem_map.mpr ⟨result.1, (List.of_mem_zip hresult).1, hid⟩

/-- Whether it begins or ends a sweep. -/
def Occurrence.isSweep : Occurrence → Bool
  | ask _ | settle _ => true
  | _ => false

namespace Service

variable {σ : Type} [Gateway σ] [LawfulGateway σ] {s : Service σ}

/-- Someone at an IP address asks for a channel that the server has. -/
def Opens (s : Service σ) (ip : Ip) (o : Occurrence) : Prop :=
  ∃ peer payload body channel, o = .packet peer payload ∧ peer.ip = ip ∧
    RequestHeader.decode payload = (.ok ⟨.openChannel⟩, body) ∧
    (Payload.decode : Decoder OpenRequest).value body = .ok ⟨channel⟩ ∧
    Hosts s.world.store s.server channel

/-- A sweep ends, and no response has come from a user who was asked and has not been
    heard from since. -/
def Demotes (s : Service σ) (user : TrackedUser) (o : Occurrence) : Prop :=
  ∃ alive entry, o = .settle alive ∧ (entry, false) ∈ s.asked.zip alive ∧
    entry.id = user.id ∧ entry.lastContact = user.lastContact

section Stepping

variable {id : UserId} {user : TrackedUser}

-- The standing of a user after a packet.
theorem packet_standing (h : s.Sound) (huser : s.presence.get? id = some user)
    (peer : SocketAddress) (payload : Bytes) :
    ∃ user', (s.step (.packet peer payload)).presence.get? id = some user' ∧
      user'.ip = user.ip ∧ (user'.online = user.online ∨
        user'.online = true ∧ s.Opens user.ip (.packet peer payload)) := by
  rcases dispatch_cases s.server peer payload s.clock s.world with
    ⟨-, hsame⟩ | ⟨handler, body, hheader⟩
  · refine ⟨user, ?_, rfl, Or.inl rfl⟩
    rw [step, hsame]
    exact huser
  · rcases s.packet_handled peer hheader with ⟨reply, hcourse, -⟩
    rcases World.touch_standing huser peer s.clock with ⟨touched, htouched, hip, honline⟩
    rcases hcourse.standing (h.world.touch peer s.clock) htouched with
      ⟨user', huser', hip', honline'⟩
    refine ⟨user', huser', hip'.trans hip, ?_⟩
    rcases honline' with hsame | ⟨hon, rfl, hfrom, channel, hdecode, hhosts⟩
    · exact Or.inl (hsame.trans honline)
    · rw [World.touch_store] at hhosts
      exact Or.inr ⟨hon, peer, payload, body, channel, rfl, hfrom.trans hip, hheader, hdecode,
        hhosts⟩

omit [LawfulGateway σ] in
-- The standing of a user after a sweep.
theorem settle_standing (hasked : (s.asked.map (·.id)).Nodup)
    (huser : s.presence.get? id = some user) (alive : List Bool) :
    ∃ user', (s.step (.settle alive)).presence.get? id = some user' ∧ user'.ip = user.ip ∧
      (user'.online = user.online ∨
        user'.online = false ∧ s.Demotes user (.settle alive)) := by
  have hid : user.id = id := (Tracker.get?_eq_some huser).2
  by_cases hresult : ∃ result ∈ s.asked.zip alive, result.1.id = id
  · rcases hresult with ⟨⟨entry, answered⟩, hentry, rfl⟩
    have hjudged := get?_applyHeartbeats (t := s.presence) s.clock _
      (nodup_results hasked alive) hentry
    rw [huser, Option.map_some] at hjudged
    refine ⟨_, hjudged, ?_⟩
    by_cases hsame : (user.online && decide (user.lastContact = entry.lastContact)) = true
    · rcases Bool.and_eq_true_iff.mp hsame with ⟨honline, hlast⟩
      cases answered with
      | true =>
          rw [TrackedUser.judged_alive _ hsame]
          exact ⟨rfl, Or.inl honline.symm⟩
      | false =>
          rw [TrackedUser.judged_silent _ hsame]
          exact ⟨rfl, Or.inr ⟨rfl, alive, entry, rfl, hentry, hid.symm,
            (of_decide_eq_true hlast).symm⟩⟩
    · rw [TrackedUser.judged_news _ _ hsame]
      exact ⟨rfl, Or.inl rfl⟩
  · refine ⟨user, ?_, rfl, Or.inl rfl⟩
    refine (get?_applyHeartbeats_ne s.clock _ fun result hmem hsame => ?_).trans huser
    exact hresult ⟨result, hmem, hsame⟩

/-- All that can become of the standing of a user at one step: it stays as it is, or they
    come by opening a channel, or they go by not answering. -/
theorem step_standing (h : s.Sound) (hasked : (s.asked.map (·.id)).Nodup)
    (huser : s.presence.get? id = some user) (o : Occurrence) :
    ∃ user', (s.step o).presence.get? id = some user' ∧ user'.ip = user.ip ∧
      (user'.online = user.online ∨ user'.online = true ∧ s.Opens user.ip o ∨
        user'.online = false ∧ s.Demotes user o) := by
  cases o with
  | packet peer payload =>
      rcases packet_standing h huser peer payload with ⟨user', huser', hip, honline⟩
      exact ⟨user', huser', hip, honline.imp_right Or.inl⟩
  | settle alive =>
      rcases settle_standing hasked huser alive with ⟨user', huser', hip, honline⟩
      exact ⟨user', huser', hip, honline.imp_right Or.inr⟩
  | grant username role =>
      simp only [step]
      split
      · refine ⟨_, (Tracker.get?_setRole username role id).trans (congrArg _ huser), ?_, Or.inl ?_⟩
        · dsimp only
          split <;> rfl
        · dsimp only
          split <;> rfl
      · exact ⟨user, huser, rfl, Or.inl rfl⟩
  | _ => exact ⟨user, huser, rfl, Or.inl rfl⟩

/-- Whoever is tracked and has not been is offline: nobody comes by joining. -/
theorem step_newcomer (h : s.Sound) (hnone : s.presence.get? id = none) (o : Occurrence)
    (huser : (s.step o).presence.get? id = some user) : user.online = false := by
  have hstays : ∀ t : Tracker, t.roster = s.presence.roster → t.get? id ≠ some user := by
    intro t hroster hfound
    rw [Tracker.get?_none_of_roster hroster hnone] at hfound
    exact absurd hfound (by simp)
  cases o with
  | packet peer payload =>
      rcases dispatch_cases s.server peer payload s.clock s.world with
        ⟨-, hsame⟩ | ⟨handler, body, hheader⟩
      · rw [step, hsame] at huser
        exact absurd huser (hstays _ rfl)
      · rcases s.packet_handled peer hheader with ⟨reply, hcourse, -⟩
        have hnone' := Tracker.get?_none_of_roster (World.roster_touch s.world peer s.clock) hnone
        exact hcourse.newcomer (h.world.touch peer s.clock).orderly hnone' huser
  | settle alive => exact absurd huser (hstays _ (roster_applyHeartbeats _ _ _))
  | grant username role =>
      simp only [step] at huser
      split at huser
      · exact absurd huser (hstays _ (Tracker.roster_setRole _ _))
      · exact absurd huser (hstays _ rfl)
  | _ => exact absurd huser (hstays _ rfl)

/-- What does not happen to an offline user. Nothing is pushed to their IP address, nobody
    is asked there whether they are there, and no packet that comes from there adds to the
    messages in the store or in the queue. -/
theorem unreached (h : s.Sound) (huser : user ∈ s.presence.users) (hoffline : user.online = false)
    (o : Occurrence) :
    (∀ attempt ∈ s.attempts o, attempt.peer.ip ≠ user.ip) ∧
    (∀ request ∈ s.requests o, request.1.ip ≠ user.ip) ∧
    ∀ peer payload, o = .packet peer payload → peer.ip = user.ip →
      (s.step o).stored = s.stored ∧ (s.step o).queue = s.queue := by
  -- Whoever is at an address of this IP address is the user, and not online.
  have hnobody : ∀ other ∈ s.presence.users, other.online = true →
      ∀ address, other.address = some address → address.ip ≠ user.ip := by
    intro other hother honline address haddress hip
    have hlocated := (h.world.presence.users other hother).located address haddress
    have hsame := Tracker.eq_of_ip h.world.presence.apart hother huser (hlocated.symm.trans hip)
    rw [hsame, hoffline] at honline
    exact absurd honline Bool.false_ne_true
  refine ⟨fun attempt hattempt => ?_, fun request hrequest => ?_, ?_⟩
  · cases o with
    | broadcast accepts =>
        have hdelivery := List.mem_map_of_mem (f := fun attempt : Attempt =>
          (attempt.peer, attempt.packet)) hattempt
        rw [attempts, Live.fanOut, attemptAll_deliveries] at hdelivery
        rcases mem_deliveries hdelivery with ⟨other, hother, channel, honline, -, haddress, -⟩
        exact hnobody other hother honline _ haddress
    | _ => exact absurd hattempt List.not_mem_nil
  · cases o with
    | ask staleAfter =>
        rcases List.mem_map.mp hrequest with ⟨entry, hentry, rfl⟩
        rcases Tracker.mem_stale.mp hentry with ⟨other, hother, honline, -, haddress, -, -⟩
        exact hnobody other hother honline _ haddress
    | _ => exact absurd hrequest List.not_mem_nil
  · rintro peer payload rfl hip
    have hqueue : (s.step (.packet peer payload)).queue = s.queue := by
      rcases dispatch_cases s.server peer payload s.clock s.world with
        ⟨-, hsame⟩ | ⟨handler, body, hheader⟩
      · rw [queue, step, hsame, queue]
      · rcases s.packet_handled peer hheader with ⟨reply, hcourse, -⟩
        rcases World.touch_standing (h.world.presence.get?_id huser) peer s.clock with
          ⟨touched, htouched, hsame, honline⟩
        have hmem := (Tracker.get?_eq_some htouched).1
        have hsilenced := hcourse.silenced (h.world.touch peer s.clock) hmem
          (honline.trans hoffline) (hip.trans hsame.symm)
        exact hsilenced.trans (World.touch_queue s.world peer s.clock)
    rcases packet_adds h.world.orderly peer payload with ⟨hstored, hqueued, -⟩
    rw [hqueue] at hqueued
    rw [List.self_eq_append_right.mp hqueued, List.append_nil] at hstored
    exact ⟨hstored, hqueue⟩

end Stepping

section Running

variable {id : UserId} {user : TrackedUser}

omit [LawfulGateway σ] in
/-- Who is being asked was silent when the sweep began that is out, and online. -/
theorem asked_from (hs : s.asked = []) (history : List Occurrence) :
    (s.run history).asked = [] ∨ ∃ before threshold between,
      history = before ++ .ask threshold :: between ∧ (∀ o ∈ between, o.isSweep = false) ∧
      (s.run history).asked =
        (s.run before).presence.stale threshold (s.run before).clock := by
  induction history using List.reverseRecOn with
  | nil => exact Or.inl hs
  | append_singleton earlier o ih =>
      rw [run_append]
      cases hsweep : o.isSweep with
      | true =>
          cases o with
          | ask threshold => exact Or.inr ⟨earlier, threshold, [], rfl, by simp, rfl⟩
          | settle alive => exact Or.inl rfl
          | _ => exact absurd hsweep Bool.false_ne_true
      | false =>
          -- The questions that are out stay the same.
          have hsame : ((s.run earlier).run [o]).asked = (s.run earlier).asked := by
            cases o with
            | ask threshold => exact absurd hsweep.symm Bool.false_ne_true
            | settle alive => exact absurd hsweep.symm Bool.false_ne_true
            | _ => rfl
          rcases ih with hnone | ⟨before, threshold, between, rfl, hbetween, hasked⟩
          · exact Or.inl (hsame.trans hnone)
          · refine Or.inr ⟨before, threshold, between ++ [o], by simp, ?_, hsame.trans hasked⟩
            intro p hp
            rcases List.mem_append.mp hp with hp | hp
            · exact hbetween p hp
            · rw [List.mem_singleton.mp hp, hsweep]

-- Nobody is asked twice in a sweep.
theorem nodup_asked (hs : s.Started) (history : List Occurrence) :
    ((s.run history).asked.map (·.id)).Nodup := by
  rcases asked_from hs.asked history with hnone | ⟨before, threshold, between, -, -, hasked⟩
  · rw [hnone]
    exact List.nodup_nil
  · rw [hasked]
    exact Tracker.nodup_stale (hs.sound.run before).world.presence.nodup_ids threshold _

-- A server starts with everybody offline.
theorem Started.offline (hs : s.Started) : ∀ user ∈ s.presence.users, user.online = false := by
  rcases hs.presence with hempty | ⟨found, now, -, -, hload⟩
  · rw [hempty]
    exact fun user huser => absurd huser List.not_mem_nil
  · rw [hload]
    refine Tracker.load_induction found now (P := fun t => ∀ user ∈ t.users, user.online = false)
      (fun user huser => absurd huser List.not_mem_nil) fun t record ht user huser => ?_
    rcases Tracker.mem_insertUser huser with rfl | hmem
    · rfl
    · exact ht user hmem

/-- An offline user stays offline until someone at their IP address asks for a channel that
    the server has. -/
theorem stays_offline (hs : s.Started) (history : List Occurrence)
    (huser : (s.run history).presence.get? id = some user) (hoffline : user.online = false)
    (later : List Occurrence)
    (hnever : ∀ first o rest, later = first ++ o :: rest →
      ¬ ((s.run history).run first).Opens user.ip o) :
    ∃ user', ((s.run history).run later).presence.get? id = some user' ∧
      user'.ip = user.ip ∧ user'.online = false := by
  induction later using List.reverseRecOn with
  | nil => exact ⟨user, huser, rfl, hoffline⟩
  | append_singleton earlier o ih =>
      have hearlier : ∀ first p rest, earlier = first ++ p :: rest →
          ¬ ((s.run history).run first).Opens user.ip p := by
        intro first p rest hsplit
        exact hnever first p (rest ++ [o]) (by rw [hsplit, List.append_assoc, List.cons_append])
      rcases ih hearlier with ⟨now, hnow, hip, hstill⟩
      have hreached : (s.run history).run earlier = s.run (history ++ earlier) :=
        (s.run_append history earlier).symm
      have hsound := hs.sound.run (history ++ earlier)
      have hasked := nodup_asked hs (history ++ earlier)
      rw [← hreached] at hsound hasked
      rcases step_standing hsound hasked hnow o with
        ⟨user', huser', hip', hsame | ⟨-, hopens⟩ | ⟨hoff, -⟩⟩
      · rw [run_append]
        exact ⟨user', huser', hip'.trans hip, hsame.trans hstill⟩
      · rw [hip] at hopens
        exact absurd hopens (hnever earlier o [] rfl)
      · rw [run_append]
        exact ⟨user', huser', hip'.trans hip, hoff⟩

end Running

/-- Online and offline. A server has started with its users from the store, no two of whom
    have the same IP address, and then anything has come to pass: packets that are
    dispatched, ticks, which may have packets between their parts, roles that are given,
    whatever others do to the store, and outages. At the start everybody is offline, and
    so is whoever joins. A user goes online only by a packet from their IP address that
    can be read as one for a channel that the server has. They go offline only by the end
    of a sweep: when it began, they were online and had been silent for at least the
    threshold, they were sent a heartbeat at their address, and no response has come.
    From any state in which a user is offline, until the next such packet for a channel,
    whatever else they send, they stay offline, nothing is pushed to their IP address,
    nobody there is asked whether they are there, and nothing that comes from there is
    stored as a message or queued. -/
theorem coming_and_going (s : Service σ) (hs : s.Started) (history : List Occurrence) :
    let t := s.run history
    (∀ user ∈ s.presence.users, user.online = false) ∧
    (∀ o id user, t.presence.get? id = none → (t.step o).presence.get? id = some user →
      user.online = false) ∧
    (∀ o id user, t.presence.get? id = some user →
      ∃ user', (t.step o).presence.get? id = some user' ∧ user'.ip = user.ip ∧
        (user.online = false → user'.online = true →
          ∃ peer payload body channel, o = .packet peer payload ∧ peer.ip = user.ip ∧
            RequestHeader.decode payload = (.ok ⟨.openChannel⟩, body) ∧
            (Payload.decode : Decoder OpenRequest).value body = .ok ⟨channel⟩ ∧
            Hosts t.world.store t.server channel) ∧
        (user.online = true → user'.online = false →
          ∃ before threshold between alive entry,
            history = before ++ .ask threshold :: between ∧
            (∀ p ∈ between, p.isSweep = false) ∧ o = .settle alive ∧
            (∃ asked ∈ (s.run before).presence.users, asked.id = id ∧ asked.online = true ∧
              threshold ≤ (s.run before).clock - asked.lastContact ∧
              asked.lastContact = user.lastContact ∧ asked.address = some entry.address) ∧
            (entry.address, heartbeatPacket) ∈ (s.run before).requests (.ask threshold) ∧
            entry.id = id ∧ (entry, false) ∈ t.asked.zip alive)) ∧
    ∀ id user, t.presence.get? id = some user → user.online = false →
      ∀ later, (∀ first o rest, later = first ++ o :: rest →
        ¬ (t.run first).Opens user.ip o) →
      (∃ user', (t.run later).presence.get? id = some user' ∧ user'.online = false) ∧
      ∀ first o rest, later = first ++ o :: rest →
        let r := t.run first
        (∀ attempt ∈ r.attempts o, attempt.peer.ip ≠ user.ip) ∧
        (∀ request ∈ r.requests o, request.1.ip ≠ user.ip) ∧
        ∀ peer payload, o = .packet peer payload → peer.ip = user.ip →
          (r.step o).stored = r.stored ∧ (r.step o).queue = r.queue := by
  intro t
  have hsound : t.Sound := hs.sound.run history
  have hnodup : (t.asked.map (·.id)).Nodup := nodup_asked hs history
  refine ⟨hs.offline, ?_, ?_, ?_⟩
  · exact fun o id user hnone huser => step_newcomer hsound hnone o huser
  · intro o id user huser
    have hid := (Tracker.get?_eq_some huser).2
    rcases step_standing hsound hnodup huser o with ⟨user', huser', hip, hstanding⟩
    refine ⟨user', huser', hip, fun hoff hon => ?_, fun hon hoff => ?_⟩
    · rcases hstanding with hsame | ⟨-, hopens⟩ | ⟨hstill, -⟩
      · rw [hsame, hoff] at hon
        exact absurd hon Bool.false_ne_true
      · exact hopens
      · rw [hstill] at hon
        exact absurd hon Bool.false_ne_true
    · rcases hstanding with hsame | ⟨hstill, -⟩ | ⟨-, alive, entry, rfl, hentry, hentryid, hlast⟩
      · rw [hsame, hon] at hoff
        exact absurd hoff.symm Bool.false_ne_true
      · rw [hstill] at hoff
        exact absurd hoff.symm Bool.false_ne_true
      · -- The question belongs to the sweep that began last.
        have hmem := (List.of_mem_zip hentry).1
        rcases asked_from hs.asked history with hnone | ⟨before, threshold, between, hsplit,
          hbetween, hasked⟩
        · have hnone' : t.asked = [] := hnone
          rw [hnone'] at hmem
          exact absurd hmem List.not_mem_nil
        · have hasked' : t.asked = _ := hasked
          rw [hasked'] at hmem
          rcases Tracker.mem_stale.mp hmem with
            ⟨asked, haskedmem, honline, hsilent, haddress, haskedid, hcontact⟩
          refine ⟨before, threshold, between, alive, entry, hsplit, hbetween, rfl,
            ⟨asked, haskedmem, ?_, honline, hsilent, hcontact.trans hlast, haddress⟩,
            List.mem_map.mpr ⟨entry, hmem, rfl⟩, hentryid.trans hid, hentry⟩
          rw [haskedid, hentryid, hid]
  · intro id user huser hoffline later hnever
    refine ⟨?_, ?_⟩
    · rcases stays_offline hs history huser hoffline later hnever with ⟨user', huser', -, hoff⟩
      exact ⟨user', huser', hoff⟩
    · rintro first o rest rfl
      have hnever' : ∀ earlier p between, first = earlier ++ p :: between →
          ¬ (t.run earlier).Opens user.ip p := by
        rintro earlier p between rfl
        exact hnever earlier p (between ++ o :: rest) (by simp)
      rcases stays_offline hs history huser hoffline first hnever' with
        ⟨user', huser', hip, hoff⟩
      have hreached : (s.run history).run first = s.run (history ++ first) :=
        (s.run_append history first).symm
      have hthen : (t.run first).Sound := by
        rw [hreached]
        exact hs.sound.run (history ++ first)
      rw [← hip]
      exact unreached hthen (Tracker.get?_eq_some huser').1 hoff o

/-- Two clients who have been silent are asked, and do not answer. -/
def walkedOut : List Occurrence :=
  fallingSilent ++ [.ask 50, .wait 10, .settle [false, false]]

/-- One of them asks to join again, and says something. -/
def knocking : List Occurrence :=
  [.packet alice (requestPacket .join (⟨aliceName⟩ : JoinRequest)),
   .packet alice (requestPacket .say (⟨1, "let me in"⟩ : SayRequest)), .ask 0]

/-- They have an address again, but they are offline, and nothing of what they say is
    stored. -/
theorem knocking_unheard :
    (blank 7001).Started ∧
      (((blank 7001).run walkedOut).presence.get? 1).map (·.online) = some false ∧
      (∃ user, (((blank 7001).run walkedOut).run knocking).presence.get? 1 = some user ∧
        user.online = false ∧ user.address = some alice) ∧
      ((((blank 7001).run walkedOut).run (knocking.take 1)).step knocking[1]).stored =
        (((blank 7001).run walkedOut).run (knocking.take 1)).stored := by
  have hstarted := blank_started 7001
  let user : TrackedUser :=
    { id := 1, username := ⟨"alice", by decide⟩, ip := alice.ip, address := none, role := .member,
      online := false, channel := none, lastContact := 0 }
  have huser : ((blank 7001).run walkedOut).presence.get? 1 = some user := by decide +kernel
  -- Neither packet can be read as one for a channel.
  have hnever : ∀ first o rest, knocking = first ++ o :: rest →
      ¬ (((blank 7001).run walkedOut).run first).Opens user.ip o := by
    rintro first o rest hsplit ⟨peer, payload, body, channel, rfl, -, hheader, -, -⟩
    have hmem : Occurrence.packet peer payload ∈ knocking := by
      rw [hsplit]
      exact List.mem_append_right _ List.mem_cons_self
    simp only [knocking, List.mem_cons, List.not_mem_nil, or_false, Occurrence.packet.injEq,
      reduceCtorEq] at hmem
    have hkind : (RequestHeader.decode payload).1 = .ok ⟨.openChannel⟩ :=
      congrArg Prod.fst hheader
    rcases hmem with ⟨-, rfl⟩ | ⟨-, rfl⟩
    · exact absurd hkind (by decide +kernel)
    · exact absurd hkind (by decide +kernel)
  have hafter := (coming_and_going (blank 7001) hstarted walkedOut).2.2.2 1 user huser rfl knocking
    hnever
  refine ⟨hstarted, by rw [huser]; rfl, ?_, ?_⟩
  · rcases hafter.1 with ⟨now, hnow, hoffline⟩
    have haddress : ((((blank 7001).run walkedOut).run knocking).presence.get? 1).bind
        (·.address) = some alice := by
      decide +kernel
    rw [hnow] at haddress
    exact ⟨now, hnow, hoffline, haddress⟩
  · exact ((hafter.2 (knocking.take 1) knocking[1] (knocking.drop 2) rfl).2.2 _ _ rfl rfl).1

end Service

end ChatHost
