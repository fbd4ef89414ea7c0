import ChatHost.Proofs.Presence.Lookup
import ChatHost.Proofs.Server.Acceptance

/-!
# Sweeps

A sweep asks those who have been silent, waits, and then acts on what it knew
when it asked. Meanwhile the server goes on, and by the time the results are in
some of the silent have spoken.

What a sweep knew must not undo what was heard since. It keeps no list of who
has spoken; all it has is the instant at which each user was last heard from
when they were asked, and it acts on a result only if that instant still
stands. This is enough because every contact sets the instant of its user, and
nothing else does: in between, a user was heard from if and only if the instant
has moved (`run_heard`, `run_unheard`). It takes one assumption, that a contact
never comes at the very instant at which its user was last heard from. A user
who is asked has been silent for at least the threshold, so this can fail only
where the threshold is zero.

Nothing is assumed of presence but that no two users have one id, and nothing
of the store: it need not be lawful, and it may fail.

## Main definitions

* `Service.contacts`: Whom a packet is a sign of life of.
* `Service.requests`: Whom a sweep asks.
* `Service.demoted`: How many a sweep takes offline.

## Theorems

* `Course.heard`: What a request does to the user who makes it, and to others.
* `Service.packet_heard`: What a packet does.
* `Service.run_heard`, `Service.run_unheard`: What a history does.
* `Service.sweep_yields_to_news`: What a sweep does, whatever comes in between.
* `Stage.sweep_service`: A sweep on a stage is one of these.
-/

namespace ChatHost

/-- The user whom an operation of the store has taken in, if it has. -/
def StoreRequest.taken? {σ : Type} [Gateway σ] (s : σ) (call : StoreRequest) : Option UserId :=
  match (call.run s).1 with
  | .ok (.user record) => some record.id
  | _ => none

/-- Whether it may come to pass while a sweep is out. One sweep ends before the
    next begins. Roles are left out, since they change users who are silent. -/
def Occurrence.isBetween : Occurrence → Bool
  | ask _ | settle _ | grant .. => false
  | _ => true

section Courses

variable {σ : Type} [Gateway σ]

-- Only the operation that adds a user takes one in.
theorem StoreRequest.taken?_eq_some {s : σ} {call : StoreRequest} {id : UserId}
    (h : call.taken? s = some id) :
    ∃ (server : ServerId) (ip : Ip) (username : Name) (record : UserRecord) (store : σ),
      call = .insertUser server ip username ∧
      Gateway.insertUser s server ip username = (.ok record, store) ∧ record.id = id := by
  -- No other operation is answered with a user.
  have hnot : ∀ {α : Type} {wrap : α → StoreAnswer} {result : Except Fault α},
      (∀ a record, wrap a ≠ .user record) →
      (match result.map wrap with
        | .ok (.user record) => some record.id
        | _ => none) ≠ some id := by
    intro α wrap result hwrap
    rcases result with fault | a
    · simp [Except.map]
    · have ha := hwrap a
      rcases hanswer : wrap a <;> simp [Except.map, hanswer] at ha ⊢
  cases call with
  | insertUser server ip username =>
      rcases hstore : Gateway.insertUser s server ip username with ⟨fault | record, store⟩
      · simp [taken?, run, answered, hstore, Except.map] at h
      · simp only [taken?, run, answered, hstore, Except.map, Option.some.injEq] at h
        exact ⟨server, ip, username, record, store, rfl, hstore, h⟩
  | selectServers id => exact absurd h (hnot (by simp))
  | selectUsers filter => exact absurd h (hnot (by simp))
  | selectChannels filter => exact absurd h (hnot (by simp))
  | selectMessages filter => exact absurd h (hnot (by simp))
  | insertServer id => exact absurd h (hnot (by simp))
  | insertChannel name server => exact absurd h (hnot (by simp))
  | insertMessage text channel sender => exact absurd h (hnot (by simp))
  | updateRole server username role => exact absurd h (hnot (by simp))

-- Where nobody is added, nobody is taken in.
theorem StoreRequest.not_mem_taken {s : σ} {calls : List StoreRequest} (id : UserId)
    (h : ∀ (server : ServerId) (ip : Ip) (username : Name),
      .insertUser server ip username ∉ calls) :
    id ∉ calls.filterMap (StoreRequest.taken? s) := by
  intro hid
  rcases List.mem_filterMap.mp hid with ⟨call, hcall, htaken⟩
  rcases taken?_eq_some htaken with ⟨server, ip, username, -, -, rfl, -⟩
  exact h server ip username hcall

/-- What a request does to a user: nothing, or it notes that they were heard from.
    The latter happens to the user behind the address of the sender, and to whom
    the store takes in. -/
theorem Course.heard {server : ServerId} {request : Request} {w w' : World σ}
    {handler : Handler} {calls : List StoreRequest} {reply : Except HandlerError Reply}
    (h : Course server request w handler calls reply w') (id : UserId) :
    (w'.live.presence.get? id = w.live.presence.get? id ∧
        id ∉ calls.filterMap (StoreRequest.taken? w.store)) ∨
      ((∃ user, w'.live.presence.get? id = some user ∧ user.lastContact = request.now) ∧
        ((∃ user, w.live.presence.find? request.peer = some user ∧ user.id = id) ∨
          id ∈ calls.filterMap (StoreRequest.taken? w.store))) := by
  -- A change that notes that the user behind the address was heard from.
  have hspoke : ∀ {user : TrackedUser} {f : TrackedUser → TrackedUser} {calls : List StoreRequest},
      w.live.presence.find? request.peer = some user → (∀ u, (f u).id = u.id) →
      (∀ u, (f u).lastContact = request.now) →
      (∀ (server : ServerId) (ip : Ip) (username : Name),
        .insertUser server ip username ∉ calls) →
      ((w.live.presence.modify user.id f).get? id = w.live.presence.get? id ∧
          id ∉ calls.filterMap (StoreRequest.taken? w.store)) ∨
        ((∃ u, (w.live.presence.modify user.id f).get? id = some u ∧
            u.lastContact = request.now) ∧
          ((∃ u, w.live.presence.find? request.peer = some u ∧ u.id = id) ∨
            id ∈ calls.filterMap (StoreRequest.taken? w.store))) := by
    intro user f calls hfound hid hnow hcalls
    by_cases hsame : id = user.id
    · subst hsame
      rcases Tracker.exists_get? (Tracker.mem_of_find? hfound) with ⟨known, hknown⟩
      refine Or.inr ⟨⟨f known, ?_, hnow known⟩, Or.inl ⟨user, hfound, rfl⟩⟩
      rw [Tracker.get?_modify user.id hid, hknown, Option.map_some]
    · exact Or.inl ⟨Tracker.get?_modify_ne hid hsame, StoreRequest.not_mem_taken id hcalls⟩
  cases h with
  | @joined username record store hdecode hstore =>
      have hcall : StoreRequest.taken? w.store (.insertUser server request.peer.ip username) =
          some record.id := by
        simp only [StoreRequest.taken?, StoreRequest.run, answered, hstore, Except.map]
      have hget := Tracker.get?_insert (t := w.live.presence)
        { TrackedUser.ofRecord record request.now with address := some request.peer } id
      by_cases hid : record.id = id
      · rw [List.filterMap_cons_some hcall, hid]
        exact Or.inr ⟨⟨_, hget.trans (if_pos hid), rfl⟩, Or.inr List.mem_cons_self⟩
      · rw [List.filterMap_cons_some hcall]
        refine Or.inl ⟨hget.trans (if_neg hid), ?_⟩
        simpa using fun heq => hid heq.symm
  | joinFailed hdecode hstore =>
      refine Or.inl ⟨rfl, ?_⟩
      simp [StoreRequest.taken?, StoreRequest.run, answered, hstore, Except.map]
  | historyFailed hdecode howns hfound hstore =>
      rw [World.setPresence, Tracker.openChannel_eq]
      exact hspoke hfound (fun _ => rfl) (fun _ => rfl) (by simp [Handler.lookup])
  | opened hdecode howns hfound hstore =>
      rw [World.setPresence, Tracker.openChannel_eq]
      exact hspoke hfound (fun _ => rfl) (fun _ => rfl) (by simp [Handler.lookup])
  | said hdecode howns hfound honline hstore =>
      exact hspoke hfound (fun _ => rfl) (fun _ => rfl) (by simp [Handler.lookup])
  | _ => exact Or.inl ⟨rfl, StoreRequest.not_mem_taken id (by simp [Handler.lookup])⟩

-- A sign of life is noted for the user behind the address, and for nobody else.
omit [Gateway σ] in
theorem World.touch_heard (w : World σ) (peer : SocketAddress) (now : Instant) (id : UserId) :
    ((w.touch peer now).live.presence.get? id = w.live.presence.get? id ∧
        ¬ ∃ user, w.live.presence.find? peer = some user ∧ user.id = id) ∨
      ((∃ user, (w.touch peer now).live.presence.get? id = some user ∧ user.lastContact = now) ∧
        ∃ user, w.live.presence.find? peer = some user ∧ user.id = id) := by
  rw [touch]
  rcases hfound : w.live.presence.find? peer with _ | user
  · exact Or.inl ⟨rfl, by simp⟩
  · by_cases hid : user.id = id
    · subst hid
      rcases Tracker.exists_get? (Tracker.mem_of_find? hfound) with ⟨known, hknown⟩
      refine Or.inr ⟨⟨{ known with address := some peer, lastContact := now }, ?_, rfl⟩,
        user, rfl, rfl⟩
      simp only [setPresence, Tracker.get?_touch, hknown, Option.map_some]
    · refine Or.inl ⟨?_, by simpa using hid⟩
      exact Tracker.get?_modify_ne (fun _ => rfl) fun heq => hid heq.symm

-- The handler finds the same user behind the address.
omit [Gateway σ] in
theorem World.touch_find? {w : World σ} {peer : SocketAddress} {now : Instant} {id : UserId}
    (h : ∃ user, (w.touch peer now).live.presence.find? peer = some user ∧ user.id = id) :
    ∃ user, w.live.presence.find? peer = some user ∧ user.id = id := by
  rw [touch] at h
  rcases hfound : w.live.presence.find? peer with _ | user
  · rw [hfound] at h
    simp [hfound] at h
  · rw [hfound] at h
    rcases Tracker.find?_touch hfound now with ⟨found, hfound', hsame⟩
    rcases h with ⟨other, hother, rfl⟩
    have heq := hfound'.symm.trans hother
    exact ⟨user, rfl, by rw [← Option.some.inj heq, hsame]⟩

end Courses

namespace Service

variable {σ : Type} [Gateway σ]

/-- The users whom a packet is a sign of life of, with the instant: whoever is
    behind the address of its sender, and whoever joins with it. -/
def contacts (s : Service σ) : Occurrence → List (UserId × Instant)
  | .packet peer payload =>
    match RequestHeader.decode payload with
    | (.error _, _) => []
    | (.ok ⟨kind⟩, body) =>
      match HandlerTable.standard.find? kind with
      | none => []
      | some handler =>
        let w := s.world.touch peer s.clock
        let calls := handler.calls s.server { peer, payload := body, now := s.clock } w
        ((s.presence.find? peer).toList.map (·.id) ++
          calls.filterMap (StoreRequest.taken? w.store)).map fun id => (id, s.clock)
  | _ => []

/-- The packets with which users are asked whether they are there. -/
def requests (s : Service σ) : Occurrence → List (SocketAddress × Bytes)
  | .ask staleAfter =>
    (s.presence.stale staleAfter s.clock).map fun entry => (entry.address, heartbeatPacket)
  | _ => []

/-- How many users are taken offline. -/
def demoted (s : Service σ) : Occurrence → Nat
  | .settle alive => (applyHeartbeats s.clock (s.asked.zip alive) s.presence).2
  | _ => 0

-- Whom a packet with a handler is a sign of life of.
theorem mem_contacts {s : Service σ} {peer : SocketAddress} {payload body : Bytes}
    {handler : Handler} (hheader : RequestHeader.decode payload = (.ok ⟨handler.kind⟩, body))
    (id : UserId) :
    id ∈ (s.contacts (.packet peer payload)).map Prod.fst ↔
      (∃ user, s.presence.find? peer = some user ∧ user.id = id) ∨
        id ∈ (handler.calls s.server { peer, payload := body, now := s.clock }
          (s.world.touch peer s.clock)).filterMap
            (StoreRequest.taken? (s.world.touch peer s.clock).store) := by
  have hids : ∀ ids : List UserId, (ids.map fun id => (id, s.clock)).map Prod.fst = ids := by
    intro ids
    rw [List.map_map]
    exact List.map_id ids
  simp only [contacts, hheader, HandlerTable.find?_standard, hids, List.mem_append, List.mem_map,
    Option.mem_toList]

/-- What a packet does to a user: nothing, or it notes that they were heard from. -/
theorem packet_heard (s : Service σ) (peer : SocketAddress) (payload : Bytes) (id : UserId) :
    ((s.step (.packet peer payload)).presence.get? id = s.presence.get? id ∧
        id ∉ (s.contacts (.packet peer payload)).map Prod.fst) ∨
      ((∃ user, (s.step (.packet peer payload)).presence.get? id = some user ∧
          user.lastContact = s.clock) ∧
        id ∈ (s.contacts (.packet peer payload)).map Prod.fst) := by
  rcases hheader : RequestHeader.decode payload with ⟨error | ⟨⟨kind⟩⟩, body⟩
  · refine Or.inl ⟨?_, by simp [contacts, hheader]⟩
    simp only [step, dispatch, hheader]
  · rcases hserved : HandlerTable.standard.find? kind with _ | handler
    · refine Or.inl ⟨?_, by simp [contacts, hheader, hserved]⟩
      simp only [step, dispatch, hheader, hserved]
    · rw [← HandlerTable.kind_of_find?_standard hserved] at hheader
      rcases s.packet_course peer hheader with ⟨reply, hcourse, -⟩
      rw [mem_contacts hheader]
      rcases hcourse.heard id with ⟨hsame, htaken⟩ | ⟨hheard, hwho⟩
      · -- The handler has done nothing, so the sign of life decides.
        rcases s.world.touch_heard peer s.clock id with ⟨hunheard, hwho⟩ | ⟨⟨user, huser⟩, hwho⟩
        · exact Or.inl ⟨hsame.trans hunheard, not_or.mpr ⟨hwho, htaken⟩⟩
        · exact Or.inr ⟨⟨user, hsame.trans huser.1, huser.2⟩, Or.inl hwho⟩
      · exact Or.inr ⟨hheard, hwho.imp_left World.touch_find?⟩

variable {s : Service σ}

-- Contacts come at the instant of the packet.
theorem contacts_now {o : Occurrence} {contact : UserId × Instant} (h : contact ∈ s.contacts o) :
    contact.2 = s.clock := by
  cases o with
  | packet peer payload =>
      rw [contacts] at h
      split at h
      · exact absurd h List.not_mem_nil
      · split at h
        · exact absurd h List.not_mem_nil
        · rcases List.mem_map.mp h with ⟨id, -, rfl⟩
          rfl
  | _ => exact absurd h List.not_mem_nil

/-- What comes to pass between the halves of a sweep does to a user what a packet
    does. -/
theorem step_heard (s : Service σ) {o : Occurrence} (ho : o.isBetween = true) (id : UserId) :
    ((s.step o).presence.get? id = s.presence.get? id ∧ id ∉ (s.contacts o).map Prod.fst) ∨
      ((∃ user, (s.step o).presence.get? id = some user ∧ user.lastContact = s.clock) ∧
        id ∈ (s.contacts o).map Prod.fst) := by
  cases o with
  | packet peer payload => exact s.packet_heard peer payload id
  | wait ms => exact Or.inl ⟨rfl, List.not_mem_nil⟩
  | broadcast accepts => exact Or.inl ⟨rfl, List.not_mem_nil⟩
  | elsewhere request => exact Or.inl ⟨rfl, List.not_mem_nil⟩
  | outage broken => exact Or.inl ⟨rfl, List.not_mem_nil⟩
  | ask staleAfter => simp [Occurrence.isBetween] at ho
  | settle alive => simp [Occurrence.isBetween] at ho
  | grant username role => simp [Occurrence.isBetween] at ho

/-- A user who is not heard from stays as they are. -/
theorem run_unheard {during : List Occurrence} (hduring : ∀ o ∈ during, o.isBetween = true)
    {id : UserId} (h : id ∉ (collect contacts s during).map Prod.fst) :
    (s.run during).presence.get? id = s.presence.get? id := by
  induction during generalizing s with
  | nil => rfl
  | cons o rest ih =>
      rw [collect, List.map_append, List.mem_append, not_or] at h
      rw [run_cons, ih (fun p hp => hduring p (List.mem_cons_of_mem _ hp)) h.2]
      rcases s.step_heard (hduring o List.mem_cons_self) id with ⟨hsame, -⟩ | ⟨-, hheard⟩
      · exact hsame
      · exact absurd hheard h.1

/-- A user who is heard from later than at some instant was last heard from later
    than at it. -/
theorem run_heard {during : List Occurrence} (hduring : ∀ o ∈ during, o.isBetween = true)
    {id : UserId} {last : Instant}
    (hlater : ∀ contact ∈ collect contacts s during, contact.1 = id → last < contact.2)
    (h : id ∈ (collect contacts s during).map Prod.fst) :
    ∃ user, (s.run during).presence.get? id = some user ∧ last < user.lastContact := by
  induction during generalizing s with
  | nil => exact absurd h List.not_mem_nil
  | cons o rest ih =>
      have hrest : ∀ p ∈ rest, p.isBetween = true :=
        fun p hp => hduring p (List.mem_cons_of_mem _ hp)
      rw [collect] at hlater
      rw [run_cons]
      by_cases hagain : id ∈ (collect contacts (s.step o) rest).map Prod.fst
      · exact ih hrest (fun contact hc => hlater contact (List.mem_append_right _ hc)) hagain
      · -- The first contact is the last one, and the user stays as it left them.
        rw [collect, List.map_append, List.mem_append] at h
        have hfirst := h.resolve_right hagain
        rcases List.mem_map.mp hfirst with ⟨contact, hcontact, hid⟩
        have hlast := hlater contact (List.mem_append_left _ hcontact) hid
        rw [contacts_now hcontact] at hlast
        rw [run_unheard hrest hagain]
        rcases s.step_heard (hduring o List.mem_cons_self) id with
          ⟨-, hunheard⟩ | ⟨⟨user, huser, hnow⟩, -⟩
        · exact absurd hfirst hunheard
        · exact ⟨user, huser, by rw [hnow]; exact hlast⟩

-- The questions that are out stay the same.
theorem run_asked {during : List Occurrence} (hduring : ∀ o ∈ during, o.isBetween = true) :
    (s.run during).asked = s.asked := by
  induction during generalizing s with
  | nil => rfl
  | cons o rest ih =>
      have hstep : (s.step o).asked = s.asked := by
        have ho := hduring o List.mem_cons_self
        cases o with
        | ask staleAfter => simp [Occurrence.isBetween] at ho
        | settle alive => simp [Occurrence.isBetween] at ho
        | grant username role => simp [Occurrence.isBetween] at ho
        | _ => rfl
      rw [run_cons, ih fun p hp => hduring p (List.mem_cons_of_mem _ hp), hstep]

/-- What a sweep does, whatever comes in between. It asks everybody who is online at
    some address and has been silent for long enough, once, at this address. Who is
    heard from in between is left as they are then, and so is who was not asked.
    Everybody else is online, in touch now and otherwise as before if they have
    answered, and if not offline with nothing known of where they are. As many are
    counted as the sweep takes offline. -/
theorem sweep_yields_to_news (s : Service σ) (hids : (s.presence.users.map (·.id)).Nodup)
    (threshold : Nat) (during : List Occurrence) (hduring : ∀ o ∈ during, o.isBetween = true)
    (answers : StaleUser → Bool)
    (hlater : ∀ entry ∈ (s.step (.ask threshold)).asked,
      ∀ contact ∈ collect contacts (s.step (.ask threshold)) during,
        contact.1 = entry.id → entry.lastContact < contact.2) :
    let out := s.step (.ask threshold)
    let heard := (collect contacts out during).map Prod.fst
    let before := out.run during
    let settle := Occurrence.settle (out.asked.map answers)
    let after := before.step settle
    (∀ entry, entry ∈ out.asked ↔ ∃ user ∈ s.presence.users, user.online = true ∧
      threshold ≤ s.clock - user.lastContact ∧ user.address = some entry.address ∧
      user.id = entry.id ∧ user.lastContact = entry.lastContact) ∧
    (out.asked.map (·.id)).Nodup ∧
    s.requests (.ask threshold) =
      (out.asked.map fun entry => (entry.address, heartbeatPacket)) ∧
    (∀ entry ∈ out.asked, entry.id ∈ heard →
      after.presence.get? entry.id = before.presence.get? entry.id) ∧
    (∀ entry ∈ out.asked, entry.id ∉ heard →
      ∃ user, s.presence.get? entry.id = some user ∧
        after.presence.get? entry.id =
          some (if answers entry then { user with online := true, lastContact := before.clock }
            else { user with online := false, address := none, channel := none })) ∧
    (∀ id, id ∉ out.asked.map (·.id) → after.presence.get? id = before.presence.get? id) ∧
    before.demoted settle =
      (out.asked.filter fun entry => (before.presence.get? entry.id).any (·.online) &&
        (after.presence.get? entry.id).any (!·.online)).length := by
  intro out heard before settle after
  have hnodup : (out.asked.map (·.id)).Nodup := Tracker.nodup_stale hids threshold s.clock
  have hasked : before.asked = out.asked := run_asked hduring
  let results := out.asked.map fun entry => (entry, answers entry)
  have hresults : before.asked.zip (out.asked.map answers) = results := by
    rw [hasked]
    exact List.map_prod_left_eq_zip.symm
  have hresultids : (results.map fun result => result.1.id).Nodup := by
    rw [List.map_map]
    exact hnodup
  have hafter : after.presence = (applyHeartbeats before.clock results before.presence).1 := by
    rw [← hresults]
    rfl
  have hjudged : ∀ entry ∈ out.asked, after.presence.get? entry.id =
      (before.presence.get? entry.id).map fun user =>
        user.judged before.clock entry (answers entry) := by
    intro entry hentry
    rw [hafter]
    exact get?_applyHeartbeats before.clock results hresultids
      (List.mem_map.mpr ⟨entry, hentry, rfl⟩)
  refine ⟨fun entry => Tracker.mem_stale, hnodup, rfl, ?_, ?_, ?_, ?_⟩
  · -- The instant of whoever was heard from has moved.
    intro entry hentry hheard
    rcases run_heard hduring (hlater entry hentry) hheard with ⟨user, huser, hlast⟩
    have hmoved : ¬(user.online && decide (user.lastContact = entry.lastContact)) = true := by
      simp [Nat.ne_of_gt hlast]
    rw [hjudged entry hentry, huser, Option.map_some, TrackedUser.judged_news _ _ hmoved]
  · intro entry hentry hunheard
    rcases Tracker.mem_stale.mp hentry with ⟨user, hu, honline, -, haddress, hid, hlast⟩
    have hthen : s.presence.get? entry.id = some user := by
      rw [← hid]
      exact Tracker.get?_of_mem hids hu
    have hnow : before.presence.get? entry.id = some user := by
      rw [← hthen]
      exact run_unheard hduring hunheard
    have hsame : (user.online && decide (user.lastContact = entry.lastContact)) = true := by
      simp [honline, hlast]
    refine ⟨user, hthen, ?_⟩
    rw [hjudged entry hentry, hnow, Option.map_some]
    rcases answers entry with _ | _
    · rw [TrackedUser.judged_silent _ hsame, if_neg Bool.false_ne_true]
    · rw [TrackedUser.judged_alive _ hsame, if_pos rfl, ← haddress]
  · intro id hid
    rw [hafter]
    refine get?_applyHeartbeats_ne before.clock results ?_
    intro result hresult hsame
    rcases List.mem_map.mp hresult with ⟨entry, hentry, rfl⟩
    exact hid (List.mem_map.mpr ⟨entry, hentry, hsame⟩)
  · have hcount : before.demoted settle = (results.filter fun result =>
        isUnchanged before.presence result.1 && !result.2).length := by
      rw [demoted, hresults]
      exact demoted_eq before.clock results hresultids
    rw [hcount, List.filter_map, List.length_map]
    refine congrArg List.length (List.filter_congr ?_)
    intro entry hentry
    rw [hjudged entry hentry]
    exact isUnchanged_and_silent before.clock entry (answers entry)

/-- The address of another client. -/
def bob : SocketAddress := ⟨.v4 ⟨10, 0, 0, 2⟩, 4000, 0⟩

/-- Two clients join and open a channel, and then are silent. -/
def fallingSilent : List Occurrence :=
  opening ++
    [.packet bob (requestPacket .join (⟨⟨"bob", by decide⟩⟩ : JoinRequest)),
     .packet bob (requestPacket .openChannel (⟨1⟩ : OpenRequest)), .wait 100]

/-- One of them speaks while both are asked. -/
def speaking : List Occurrence := [.wait 10, .packet alice (requestPacket .serverInfo ())]

/-- Neither answers, and only the one who has not spoken is taken offline. -/
theorem silent_client_demoted :
    (((blank 7001).run fallingSilent).presence.users.map (·.id)).Nodup ∧
      (∀ o ∈ speaking, o.isBetween = true) ∧
      (∀ entry ∈ (((blank 7001).run fallingSilent).step (.ask 50)).asked,
        ∀ contact ∈ collect contacts (((blank 7001).run fallingSilent).step (.ask 50)) speaking,
          contact.1 = entry.id → entry.lastContact < contact.2) ∧
      ((((blank 7001).run fallingSilent).step (.ask 50)).run speaking).demoted
        (.settle [false, false]) = 1 := by
  have hids : (((blank 7001).run fallingSilent).presence.users.map (·.id)).Nodup := by
    decide +kernel
  have hbetween : ∀ o ∈ speaking, o.isBetween = true := by
    intro o ho
    rcases List.mem_pair.mp ho with rfl | rfl <;> rfl
  have hlater : ∀ entry ∈ (((blank 7001).run fallingSilent).step (.ask 50)).asked,
      ∀ contact ∈ collect contacts (((blank 7001).run fallingSilent).step (.ask 50)) speaking,
        contact.1 = entry.id → entry.lastContact < contact.2 := by
    decide +kernel
  have hsweep := sweep_yields_to_news _ hids 50 speaking hbetween (fun _ => false) hlater
  have hdemoted := hsweep.2.2.2.2.2.2
  refine ⟨hids, hbetween, hlater, Eq.trans ?_ (hdemoted.trans ?_)⟩
  · rfl
  · decide +kernel

end Service

namespace Stage

variable {σ : Type} [Gateway σ]

-- Nobody is asked anything while heartbeats are out.
theorem interludes_ask_nothing {σ : Type} [Gateway σ] (script : List Interlude) (s : Stage σ) :
    ∀ effect ∈ (s.interludes script).1, effect.asked? = none := by
  induction script generalizing s with
  | nil => exact fun effect h => absurd h List.not_mem_nil
  | cons first rest ih =>
      intro effect h
      rw [interludes] at h
      rcases List.mem_append.mp h with h | h
      · cases first with
        | wait ms => exact absurd h List.not_mem_nil
        | packet peer payload =>
            simp only [interlude, receive] at h
            split at h
            · split at h
              · rw [List.mem_singleton.mp h]
                rfl
              · exact absurd h List.not_mem_nil
            · exact absurd h List.not_mem_nil
      · exact ih _ effect h

/-- A sweep on a stage is a sweep of the server there: it asks whom that one asks,
    reports what that one reports, and leaves what that one leaves. -/
theorem sweep_service (s : Stage (Breakable σ)) (hs : s.handlers = .standard) :
    ∃ (during : List Occurrence) (answers : StaleUser → Bool) (effects : List Effect),
      (∀ o ∈ during, o.isBetween = true) ∧ (∀ effect ∈ effects, effect.asked? = none) ∧
      let out := (s.service []).step (.ask s.staleAfter)
      let before := out.run during
      let settle := Occurrence.settle (out.asked.map answers)
      s.sweep.2.2.service [] = before.step settle ∧
      s.sweep.1 = (out.asked.length, before.demoted settle) ∧
      s.sweep.2.1 = (((s.service []).requests (.ask s.staleAfter)).map fun request =>
        Effect.asked request.1 request.2) ++ effects := by
  let stale := s.world.live.presence.stale s.staleAfter s.clock
  let answers (entry : StaleUser) : Bool := (s.scriptOf entry.address).outcome.alive
  let scripted := stale.map fun entry => (entry, s.scriptOf entry.address)
  let script := happenings (scripted.map Prod.snd)
  have hbetween : ∀ o ∈ script.map Interlude.occurrence, o.isBetween = true := by
    intro o ho
    rcases List.mem_map.mp ho with ⟨interlude, -, rfl⟩
    cases interlude <;> rfl
  have hresults : (scripted.map fun pair => (pair.1, pair.2.outcome.alive)) =
      stale.zip (stale.map answers) := by
    rw [List.map_map]
    exact List.map_prod_left_eq_zip
  have hduring := interludes_runs script s hs stale
  have hnothing := interludes_ask_nothing script s
  rcases hafter : s.interludes script with ⟨effects, after⟩
  rw [hafter] at hduring hnothing
  have hsweep := sweep_stage s scripted rfl effects after hafter
  rw [hresults] at hsweep
  refine ⟨script.map Interlude.occurrence, answers, effects, hbetween, hnothing, ?_⟩
  intro out before settle
  have hbefore : before = after.service stale := hduring.symm
  rw [hsweep, hbefore]
  refine ⟨rfl, rfl, ?_⟩
  rw [Service.requests, List.map_map]
  rfl

end Stage

end ChatHost
