import ChatHost.Proofs.Presence.Lookup
import ChatHost.Proofs.Server.Moves
import ChatHost.Proofs.Server.Service
import ChatHost.Proofs.Store.BackingLaws

/-!
# The Presence Invariant

Presence stays sound whatever comes in and whoever answers.

`Tracker.Sound` alone is not kept by every packet. Someone who joins must come
from an IP address that no tracked user has, and the tracker does not check
this: it trusts the store to refuse a second user of a server at one address.
The invariant therefore ties the tracker to the store. Every tracked user is
known to the store under the same id and address (`known`), so whom the store
takes in is new to the tracker as well, and their id, the highest in the store,
is above all that are tracked.

Sweeps need the same tie. Between the question and its result other packets
come in, and the result moves a user to the address that was asked. That
address was theirs when the question went out. What the store knows of an id
never changes, so it is theirs still (`Service.Sound.asked`).

## Main definitions

* `World.Sound`: Presence is sound and tied to an orderly store.
* `Service.Sound`: The same, with the questions that are out.

## Theorems

* `World.Sound.move`: Every move of a handler keeps the world sound.
* `sound_applyHeartbeats`: Every result of a sweep keeps presence sound.
* `Service.Sound.step`: Whatever comes to pass keeps a server sound.
* `Service.started_of_filled`: A server that starts on a filled store is sound.
* `Service.presence_sound`: The presence of a server after any history.
-/

namespace ChatHost

open LawfulGateway

section Heartbeats

theorem sound_applyHeartbeat (now : Instant) {t : Tracker} (h : t.Sound) (user : StaleUser)
    (alive : Bool) (huser : t.Belongs user.id user.address) :
    (applyHeartbeat now t user alive).Sound := by
  rcases applyHeartbeat_cases now t user alive with hsame | honline | hoffline
  · rw [hsame]
    exact h
  · rw [honline]
    exact Tracker.sound_markOnline h _ _ _ huser
  · rw [hoffline]
    exact Tracker.sound_markOffline h _

/-- A sweep keeps presence sound if those were asked whose addresses they are.
    No result changes whose address is whose, so one does not spoil the next. -/
theorem sound_applyHeartbeats (now : Instant) (results : List (StaleUser × Bool)) {t : Tracker}
    (h : t.Sound) (hresults : ∀ result ∈ results, t.Belongs result.1.id result.1.address) :
    (applyHeartbeats now results t).1.Sound := by
  induction results generalizing t with
  | nil => exact h
  | cons result rest ih =>
      rcases result with ⟨user, alive⟩
      have huser := hresults (user, alive) List.mem_cons_self
      have hrest : ∀ result ∈ rest,
          (applyHeartbeat now t user alive).Belongs result.1.id result.1.address := by
        intro result hresult entry hentry
        rw [roster_applyHeartbeat] at hentry
        exact hresults result (List.mem_cons_of_mem _ hresult) entry hentry
      rw [applyHeartbeats]
      exact ih (sound_applyHeartbeat now h user alive huser) hrest

end Heartbeats

section Worlds

variable {σ : Type} [Gateway σ] [LawfulGateway σ] {server : ServerId}

/-- Presence is sound, and the store knows everyone who is tracked. -/
structure World.Sound (server : ServerId) (w : World σ) : Prop where
  orderly : Orderly w.store
  presence : w.live.presence.Sound
  known : ∀ entry ∈ w.live.presence.roster, Known w.store server entry.1 entry.2

namespace World.Sound

variable {w w' : World σ}

-- A store that grows forgets nobody, so only new users have to be looked at.
theorem of_grows (h : Sound server w) (hstore : Grows w.store w'.store)
    (hsound : w'.live.presence.Sound)
    (hroster : w'.live.presence.roster = w.live.presence.roster) : Sound server w' where
  orderly := hstore.orderly
  presence := hsound
  known entry hentry := by
    rw [hroster] at hentry
    exact hstore.known (h.known entry hentry)

-- What the store knows of an id settles whose address it is.
theorem belongs_of_known (h : Sound server w) {id : UserId} {address : SocketAddress}
    (hknown : Known w.store server id address.ip) : w.live.presence.Belongs id address := by
  intro entry hentry hid
  have hentry' := h.known entry hentry
  rw [hid] at hentry'
  exact known_ip_unique h.orderly hknown hentry'

theorem touch (h : Sound server w) (peer : SocketAddress) (now : Instant) :
    Sound server (w.touch peer now) := by
  rw [World.touch]
  split
  · next user hfound =>
    have hbelongs := h.presence.belongs_of_find? hfound
    refine h.of_grows (Grows.refl h.orderly) ?_ ?_
    · exact Tracker.sound_touch h.presence _ _ _ hbelongs
    · exact Tracker.roster_touch _ _ _
  · exact h

-- Whoever is tracked is in the store, where a new user comes last.
theorem lt_newcomer (h : Sound server w) {ip : Ip} {username : Name} {record : UserRecord}
    {store : σ} (hstore : Gateway.insertUser w.store server ip username = (.ok record, store)) :
    ∀ other ∈ w.live.presence.users, other.id < record.id := by
  intro other hother
  rcases h.known _ (Tracker.mem_roster hother) with ⟨user, huser, -, huserid, -⟩
  have hlt := lt_insertUser h.orderly hstore user huser
  rwa [huserid] at hlt

-- So nobody is tracked under the id of a new user.
theorem get?_newcomer (h : Sound server w) {ip : Ip} {username : Name} {record : UserRecord}
    {store : σ} (hstore : Gateway.insertUser w.store server ip username = (.ok record, store)) :
    w.live.presence.get? record.id = none := by
  refine List.find?_eq_none.mpr fun other hother => ?_
  rw [decide_eq_true_iff]
  exact UInt32.ne_of_lt (h.lt_newcomer hstore other hother)

-- Someone who joins is new to the tracker because they are new to the store.
theorem join (h : Sound server w) {peer : SocketAddress} {username : Name}
    {record : UserRecord} {store : σ} (now : Instant)
    (hstore : Gateway.insertUser w.store server peer.ip username = (.ok record, store)) :
    Sound server (World.setPresence { w with store := store }
      (w.live.presence.join record peer now)) := by
  rcases insertUser_ok h.orderly hstore with ⟨horderly, hrecord, hnew, hrecords⟩
  have husers : (records store).users = (records w.store).users ++ [record] := by rw [hrecords]
  have hip : record.ip = peer.ip := by rw [hrecord]
  have hid := h.lt_newcomer hstore
  -- The store would not have taken them in if it knew somebody at their address.
  have hapart : ∀ other ∈ w.live.presence.users, other.ip ≠ record.ip := by
    intro other hother heq
    rcases h.known _ (Tracker.mem_roster hother) with ⟨user, huser, hserver, -, huserip⟩
    exact hnew user huser hserver (huserip.trans (heq.trans hip))
  have hjoin : w.live.presence.join record peer now = ⟨w.live.presence.users ++
      [{ TrackedUser.ofRecord record now with address := some peer }]⟩ :=
    Tracker.insert_last _ hid
  rw [hjoin]
  refine ⟨horderly, ?_, ?_⟩
  · refine Tracker.append_sound h.presence _ ⟨?_, fun _ => rfl, ?_⟩ hid hapart
    · exact fun honline => absurd honline (by simp [TrackedUser.ofRecord])
    · intro address haddress
      rw [← Option.some.inj haddress]
      exact hip.symm
  · have hgrows := grows_insertUser h.orderly server peer.ip username
    rw [hstore] at hgrows
    intro entry hentry
    rcases List.mem_map.mp hentry with ⟨user, huser, rfl⟩
    rcases List.mem_append.mp huser with huser | huser
    · exact hgrows.known (h.known _ (Tracker.mem_roster huser))
    · rw [List.mem_singleton.mp huser]
      have hmem : record ∈ (records store).users := by
        rw [husers]
        exact List.mem_append_right _ (List.mem_singleton.mpr rfl)
      exact ⟨record, hmem, by rw [hrecord], rfl, rfl⟩

/-- Every move of a handler keeps the world sound. -/
theorem move (h : Sound server w) {request : Request} {handler : Handler}
    (hmove : Move server request w handler w') : Sound server w' := by
  have hgrows := hmove.grows h.orderly
  cases hmove with
  | stayed => exact h
  | joinRefused _ => exact h.of_grows hgrows h.presence rfl
  | joined hstore => exact h.join request.now hstore
  | created _ => exact h.of_grows hgrows h.presence rfl
  | opened _ hfound =>
      have hbelongs := h.presence.belongs_of_find? hfound
      refine h.of_grows hgrows (Tracker.sound_openChannel h.presence _ _ _ _ hbelongs) ?_
      exact (Tracker.roster_markOnline _ _ _).trans (Tracker.roster_setChannel _ _)
  | sayRefused _ => exact h.of_grows hgrows h.presence rfl
  | said _ hfound _ =>
      have hbelongs := h.presence.belongs_of_find? hfound
      refine h.of_grows hgrows (Tracker.sound_markOnline h.presence _ _ _ hbelongs) ?_
      exact Tracker.roster_markOnline _ _ _

end World.Sound

theorem World.Sound.dispatch {w : World σ} (h : Sound server w) (peer : SocketAddress)
    (packet : Bytes) (now : Instant) :
    Sound server (dispatch .standard server peer packet now w).2 := by
  rcases dispatch_moves server peer packet now w with hsame | ⟨handler, payload, -, hmove⟩
  · rw [hsame]
    exact h
  · exact (h.touch peer now).move hmove

end Worlds

namespace Service

variable {σ : Type} [Gateway σ] [LawfulGateway σ]

/-- The world is sound, and whoever is being asked is asked at their address. -/
structure Sound (s : Service σ) : Prop where
  world : World.Sound s.server s.world
  asked : ∀ entry ∈ s.asked, Known s.world.store s.server entry.id entry.address.ip

/-- Whatever comes to pass keeps a server sound. -/
theorem Sound.step {s : Service σ} (h : s.Sound) (o : Occurrence) : (s.step o).Sound := by
  cases o with
  | wait ms => exact ⟨h.world, h.asked⟩
  | packet peer payload =>
      refine ⟨h.world.dispatch peer payload s.clock, ?_⟩
      have hgrows := dispatch_grows s.server h.world.orderly peer payload s.clock
      exact fun entry hentry => hgrows.known (h.asked entry hentry)
  | broadcast accepts => exact ⟨⟨h.world.orderly, h.world.presence, h.world.known⟩, h.asked⟩
  | ask staleAfter =>
      refine ⟨h.world, ?_⟩
      intro entry hentry
      -- The snapshot has the address that is tracked, at an IP address that is known.
      rcases Tracker.mem_stale.mp hentry with ⟨user, huser, -, -, haddress, hid, -⟩
      have hip := (h.world.presence.users user huser).located _ haddress
      have hknown := h.world.known _ (Tracker.mem_roster huser)
      rw [hid, ← hip] at hknown
      exact hknown
  | settle alive =>
      -- What was known when the questions went out is known when results come in.
      have hresults : ∀ result ∈ s.asked.zip alive,
          s.presence.Belongs result.1.id result.1.address := by
        intro result hresult
        exact h.world.belongs_of_known (h.asked result.1 (List.of_mem_zip hresult).1)
      have hsound := sound_applyHeartbeats s.clock _ h.world.presence hresults
      have hroster := roster_applyHeartbeats s.clock (s.asked.zip alive) s.presence
      refine ⟨h.world.of_grows (Grows.refl h.world.orderly) hsound hroster, ?_⟩
      intro entry hentry
      exact absurd hentry (by simp [Service.step])
  | grant username role =>
      have hgrows := grows_updateRole h.world.orderly s.server username role
      refine ⟨?_, fun entry hentry => hgrows.known (h.asked entry hentry)⟩
      simp only [Service.step]
      split
      · exact h.world.of_grows hgrows (Tracker.sound_setRole h.world.presence username role)
          (Tracker.roster_setRole username role)
      · exact h.world.of_grows hgrows h.world.presence rfl
  | elsewhere request =>
      have hgrows := request.run_grows h.world.orderly
      refine ⟨h.world.of_grows hgrows h.world.presence rfl, ?_⟩
      intro entry hentry
      exact hgrows.known (h.asked entry hentry)
  | outage broken => exact ⟨⟨h.world.orderly, h.world.presence, h.world.known⟩, h.asked⟩

theorem Sound.run {s : Service σ} (h : s.Sound) (history : List Occurrence) :
    (s.run history).Sound :=
  run_invariant Sound (fun _ o hs => hs.step o) s history h

-- A server that has just started is sound.
theorem Started.sound {s : Service σ} (h : s.Started) : s.Sound := by
  have hasked : ∀ entry ∈ s.asked, Known s.world.store s.server entry.id entry.address.ip := by
    intro entry hentry
    rw [h.asked] at hentry
    exact absurd hentry (by simp)
  have hpresence : s.world.live.presence = s.presence := rfl
  rcases h.presence with hempty | ⟨found, now, hfound, hapart, hload⟩
  · rw [hempty] at hpresence
    refine ⟨⟨h.orderly, ?_, ?_⟩, hasked⟩
    · rw [hpresence]
      exact Tracker.sound_empty
    · intro entry hentry
      rw [hpresence] at hentry
      exact absurd hentry (by simp [Tracker.roster, Tracker.empty])
  · have hfound' := selectUsers_ok h.orderly hfound
    have hascend : found.Pairwise fun u v => u.id < v.id := by
      rw [hfound']
      exact (users_ascend h.orderly).filter _
    rw [hload] at hpresence
    refine ⟨⟨h.orderly, ?_, ?_⟩, hasked⟩
    · rw [hpresence]
      exact Tracker.load_sound found now hascend hapart
    · intro entry hentry
      rw [hpresence, Tracker.load_ascending found now hascend] at hentry
      simp only [Tracker.roster, List.map_map, List.mem_map] at hentry
      rcases hentry with ⟨record, hrecord, rfl⟩
      rw [hfound', List.mem_filter] at hrecord
      rcases hrecord with ⟨hmem, hadmits⟩
      simp only [UserFilter.admits, agrees, Bool.and_true, decide_eq_true_eq] at hadmits
      exact ⟨record, hmem, hadmits.symm, rfl, rfl⟩

/-- A server that starts on a store that gateway operations have filled has just
    started: in such a store users are apart. -/
theorem started_of_filled {b : Backing} (hb : b.Filled) {broken : List StoreMethod}
    {h h' : Hosted} {isTaken : Bool} {now : Instant}
    (hstart : h.start (⟨b, broken⟩ : Breakable Backing) isTaken now = (.ok (), h')) :
    Started (σ := Backing)
      { server := h.id, clock := now, world := { store := ⟨b, broken⟩, live := h'.live } } := by
  refine Hosted.start_started hstart hb.orderly ?_
  intro found hfound
  exact selectUsers_apart hb.orderly hb.apart (Breakable.query_ok hfound)

/-- A server that starts on a store in memory without records. -/
def blank (server : ServerId) : Service Backing :=
  { server, world := { store := ⟨.memory .empty, []⟩ } }

theorem blank_started (server : ServerId) : (blank server).Started :=
  ⟨Backing.Filled.memory.orderly, rfl, rfl, Or.inl rfl⟩

/-- What is true of the presence of a server after any history. Users have ids
    of their own and IP addresses of their own, which are those that the store
    knows; online users have an address, offline users look at nothing, and
    addresses are at the IP address of their user. So whoever is found behind an
    address is the one user of its IP address, in whatever order users stand. -/
theorem presence_sound (s : Service Backing) (hs : s.Started) (history : List Occurrence) :
    (∀ (id : UserId) (user : TrackedUser), (s.run history).presence.get? id = some user ↔
      user ∈ (s.run history).presence.users ∧ user.id = id) ∧
    (∀ user ∈ (s.run history).presence.users,
      (user.online = true → user.address.isSome = true) ∧
      (user.online = false → user.channel = none) ∧
      (∀ address, user.address = some address → address.ip = user.ip) ∧
      Known (s.run history).world.store (s.run history).server user.id user.ip) ∧
    ((s.run history).presence.users.Pairwise fun u v => u.ip ≠ v.ip) ∧
    ∀ users : List TrackedUser, users.Perm (s.run history).presence.users →
      ∀ (peer : SocketAddress) (user : TrackedUser), Tracker.find? ⟨users⟩ peer = some user ↔
        user ∈ (s.run history).presence.users ∧ user.ip = peer.ip := by
  have hsound := hs.sound.run history
  have hpresence : (s.run history).presence.Sound := hsound.world.presence
  refine ⟨?_, ?_, hpresence.apart, ?_⟩
  · intro id user
    refine ⟨Tracker.get?_eq_some, ?_⟩
    rintro ⟨hu, rfl⟩
    exact hpresence.get?_id hu
  · intro user hu
    have huser := hpresence.users user hu
    exact ⟨huser.addressed, huser.unwatching, huser.located,
      hsound.world.known _ (Tracker.mem_roster hu)⟩
  · intro users hperm peer user
    rw [hpresence.find?_of_perm hperm]
    refine ⟨Tracker.find?_ip hpresence.users, ?_⟩
    rintro ⟨hu, hip⟩
    exact Tracker.find?_of_mem hpresence.apart hpresence.users hu hip

/-- The address of a client. -/
def alice : SocketAddress := ⟨.v4 ⟨10, 0, 0, 1⟩, 4000, 0⟩

/-- The name of this client. -/
def aliceName : Name := ⟨"alice", by decide⟩

/-- A client joins a server that has just been added to the store. -/
def joining : List Occurrence :=
  [.elsewhere (.insertServer 7001),
   .packet alice (requestPacket .join (⟨aliceName⟩ : JoinRequest))]

theorem joined_found_at_other_port :
    (blank 7001).Started ∧
      Tracker.find? ⟨((blank 7001).run joining).presence.users.reverse⟩
          ⟨.v4 ⟨10, 0, 0, 1⟩, 5000, 0⟩ =
        some { id := 1, username := ⟨"alice", by decide⟩, ip := alice.ip, address := some alice,
               role := .member, online := false, channel := none, lastContact := 0 } := by
  have hsound := presence_sound (blank 7001) (blank_started 7001) joining
  refine ⟨blank_started 7001, ?_⟩
  refine (hsound.2.2.2 _ (List.reverse_perm _) _ _).mpr ⟨?_, rfl⟩
  decide +kernel

end Service

end ChatHost
