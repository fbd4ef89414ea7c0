import ChatHost.Proofs.Server.Upkeep

/-!
# Tracker and Store in Concord

A running server keeps its users in two places, and the two agree.

The store knows of every user an id, a name, an IP address and a role. The tracker
knows the same and, beyond it, where they are. Some parts of the server ask one
and some the other, so they had better tell the same story (`World.Concord`).

Three things change what is told. A start reads it from the store. Someone who
joins is written to the store first, which gives them an id above all others, so
that they come last in both places. And a role is given in both places to whoever
goes by a name, however many do; the tracker is passed over only if the store says
that nobody does, which it says truly. Everything else that the server does to a
user, it does to what the tracker alone knows (`Tracker.profiles_modify`).

For this others must leave the users of the server alone. What they do to users of
other servers, and to everything else in the store, is no matter (`spares`).

## Main definitions

* `Profile`: What is kept of a user in both places.
* `World.Concord`: The tracker has the users that the store has.
* `StoreRequest.spares`, `Occurrence.spares`, `Occasion.spares`: What leaves the users of
  a server alone.

## Theorems

* `profiles_applyHeartbeats`, `Tracker.profiles_setRole`: What a change makes of profiles.
* `Service.concord_step`, `Service.concord_run`: Concord is kept.
* `Venue.Attuned.step`, `Venue.Attuned.run`: Concord while a server runs.
* `World.Concord.caller`: Both places know the same caller.
* `dispatch_membership`: What is answered to who asks for their rights.
* `Venue.tracks_the_store`: Tracker and store agree, over all histories.
-/

namespace ChatHost

open LawfulGateway

/-- What is kept of a user in both places. -/
structure Profile where
  id : UserId
  username : Name
  ip : Ip
  role : Role
  deriving DecidableEq

/-- What is known of a user, less where they are. -/
def TrackedUser.profile (user : TrackedUser) : Profile :=
  ⟨user.id, user.username, user.ip, user.role⟩

/-- What is stored of a user of some server. -/
def UserRecord.profile (user : UserRecord) : Profile :=
  ⟨user.id, user.username, user.ip, user.role⟩

/-- A user with a new role, if they go by a name. -/
def Profile.withRoleIf (username : String) (role : Role) (profile : Profile) : Profile :=
  if profile.username.text = username then { profile with role := role } else profile

theorem Profile.withRoleIf_named {username : String} (role : Role) (profile : Profile)
    (h : profile.username.text = username) :
    profile.withRoleIf username role = { profile with role := role } :=
  if_pos h

theorem Profile.withRoleIf_other {username : String} (role : Role) (profile : Profile)
    (h : profile.username.text ≠ username) : profile.withRoleIf username role = profile :=
  if_neg h

/-- The profiles of the users who are tracked. -/
def Tracker.profiles (t : Tracker) : List Profile := t.users.map TrackedUser.profile

section Tracking

variable {β : Type} {t : Tracker}

/-- What a change of a user does not touch is as before, of all users. -/
theorem Tracker.profiles_modify {f : TrackedUser → TrackedUser} (id : UserId)
    (hf : ∀ user, (f user).profile = user.profile) : (t.modify id f).profiles = t.profiles :=
  map_modify hf id

/-- A sweep changes nothing of users but where they are. -/
theorem profiles_applyHeartbeats (now : Instant) (results : List (StaleUser × Bool))
    (t : Tracker) : (applyHeartbeats now results t).1.profiles = t.profiles := by
  induction results generalizing t with
  | nil => rfl
  | cons result rest ih =>
      rcases result with ⟨entry, alive⟩
      rw [applyHeartbeats, ih]
      rcases applyHeartbeat_cases now t entry alive with hsame | honline | hoffline
      · rw [hsame]
      · rw [honline]
        exact Tracker.profiles_modify _ fun _ => rfl
      · rw [hoffline]
        exact Tracker.profiles_modify _ fun _ => rfl

theorem Tracker.profiles_setRole (username : String) (role : Role) :
    (t.setRole username role).profiles = t.profiles.map (Profile.withRoleIf username role) := by
  rw [profiles, profiles, setRole, List.map_map, List.map_map]
  refine List.map_congr_left fun user _ => ?_
  rw [Function.comp_apply, Function.comp_apply]
  by_cases hname : user.username.text = username
  · rw [if_pos hname]
    exact (Profile.withRoleIf_named role user.profile hname).symm
  · rw [if_neg hname]
    exact (Profile.withRoleIf_other role user.profile hname).symm

end Tracking

/-- Whether an operation of the store leaves the users of a server alone. -/
def StoreRequest.spares (server : ServerId) : StoreRequest → Bool
  | insertUser other _ _ => decide (other ≠ server)
  | updateRole other _ _ => decide (other ≠ server)
  | _ => true

/-- Whether others leave the users of a server alone. -/
def Occurrence.spares (server : ServerId) : Occurrence → Bool
  | elsewhere request => request.spares server
  | _ => true

section Storing

variable {σ : Type} [Gateway σ] [LawfulGateway σ]

/-- The profiles of the users of a server who are stored. -/
def profilesOf (server : ServerId) (store : σ) : List Profile :=
  ((records store).users.filter fun user => decide (user.server = server)).map
    UserRecord.profile

theorem profilesOf_congr {server : ServerId} {s s' : σ}
    (h : (records s').users = (records s).users) : profilesOf server s' = profilesOf server s := by
  rw [profilesOf, h, profilesOf]

-- A new user comes last, if they are a user of the server.
theorem profilesOf_append (server : ServerId) {s s' : σ} {user : UserRecord}
    (h : (records s').users = (records s).users ++ [user]) :
    profilesOf server s' =
      profilesOf server s ++ if user.server = server then [user.profile] else [] := by
  rw [profilesOf, h, List.filter_append, List.map_append, profilesOf]
  by_cases hserver : user.server = server
  · simp [hserver]
  · simp [hserver]

-- What is done to each user of the store, is done to the profiles of those of the server.
theorem profilesOf_map {server : ServerId} {s s' : σ} {f : UserRecord → UserRecord}
    {g : Profile → Profile} (h : (records s').users = (records s).users.map f)
    (hserver : ∀ user, (f user).server = user.server)
    (hprofile : ∀ user, user.server = server → (f user).profile = g user.profile) :
    profilesOf server s' = (profilesOf server s).map g := by
  have hsame : ((fun user : UserRecord => decide (user.server = server)) ∘ f) =
      fun user => decide (user.server = server) := by
    funext user
    rw [Function.comp_apply, hserver]
  rw [profilesOf, h, List.filter_map, List.map_map, hsame, profilesOf, List.map_map]
  refine List.map_congr_left fun user huser => ?_
  exact hprofile user (of_decide_eq_true (List.mem_filter.mp huser).2)

/-- A role is given on one server, to everybody who goes by the name there. -/
theorem profilesOf_withRoleIf (server other : ServerId) {s s' : σ} {username : String}
    {role : Role}
    (h : (records s').users =
      (records s).users.map (UserRecord.withRoleIf other username role)) :
    profilesOf server s' = (profilesOf server s).map
      (if other = server then Profile.withRoleIf username role else id) := by
  refine profilesOf_map h (fun user => ?_) fun user hown => ?_
  · rw [UserRecord.withRoleIf]
    split <;> rfl
  · rw [UserRecord.withRoleIf]
    by_cases hserver : other = server
    · rw [if_pos hserver]
      by_cases hname : user.username.text = username
      · have hgoes : MemoryStore.goesBy other username user = true := by
          simp [MemoryStore.goesBy, hown, hserver, hname]
        rw [if_pos hgoes]
        exact (Profile.withRoleIf_named role user.profile hname).symm
      · have hgoes : ¬ MemoryStore.goesBy other username user = true := by
          simp [MemoryStore.goesBy, hname]
        rw [if_neg hgoes]
        exact (Profile.withRoleIf_other role user.profile hname).symm
    · have hgoes : ¬ MemoryStore.goesBy other username user = true := by
        simp [MemoryStore.goesBy, hown, Ne.symm hserver]
      rw [if_neg hgoes, if_neg hserver]
      rfl

/-- What spares the users of a server leaves their profiles as they are. -/
theorem StoreRequest.profilesOf_run {server : ServerId} {s : σ} (hs : Orderly s)
    {request : StoreRequest} (h : request.spares server = true) :
    profilesOf server (request.run s).2 = profilesOf server s := by
  cases request with
  | selectServers id => rfl
  | selectUsers filter => rfl
  | selectChannels filter => rfl
  | selectMessages filter => rfl
  | insertServer id =>
      refine profilesOf_congr ?_
      rw [StoreRequest.run, answered, (insertServer_keeps hs (Prod.eta _).symm).2]
  | insertUser other ip username =>
      rcases hresult : Gateway.insertUser s other ip username with ⟨fault | user, s'⟩ <;>
        rw [StoreRequest.run, hresult]
      · exact profilesOf_congr (by rw [answered, (insertUser_error hs hresult).2])
      · rcases insertUser_ok hs hresult with ⟨-, huser, -, hrecords⟩
        have hother : user.server ≠ server := by
          rw [huser]
          exact of_decide_eq_true h
        rw [answered, profilesOf_append server (congrArg Records.users hrecords), if_neg hother,
          List.append_nil]
  | insertChannel name other =>
      rcases hresult : Gateway.insertChannel s name other with ⟨fault | channel, s'⟩ <;>
        rw [StoreRequest.run, hresult]
      · exact profilesOf_congr (by rw [answered, (insertChannel_error hs hresult).2])
      · exact profilesOf_congr (by rw [answered, (insertChannel_ok hs hresult).2.2])
  | insertMessage text channel sender =>
      rcases hresult : Gateway.insertMessage s text channel sender with ⟨fault | receipt, s'⟩ <;>
        rw [StoreRequest.run, hresult]
      · exact profilesOf_congr (by rw [answered, (insertMessage_error hs hresult).2])
      · exact profilesOf_congr (by rw [answered, (insertMessage_ok hs hresult).2])
  | updateRole other username role =>
      rcases hresult : Gateway.updateRole s other username role with ⟨fault | found, s'⟩ <;>
        rw [StoreRequest.run, hresult]
      · exact profilesOf_congr (by rw [answered, (updateRole_error hs hresult).2])
      · have husers := congrArg Records.users (updateRole_ok hs hresult).2
        rw [answered, profilesOf_withRoleIf server other husers, if_neg (of_decide_eq_true h),
          List.map_id]

end Storing

section Agreeing

variable {σ : Type} [Gateway σ] [LawfulGateway σ] {server : ServerId} {w w' : World σ}

/-- The tracker of a server has the users whom the store has for it, in the same order. -/
def World.Concord (server : ServerId) (w : World σ) : Prop :=
  w.live.presence.profiles = profilesOf server w.store

namespace World.Concord

theorem of_same (h : Concord server w) (hpresence : w'.live.presence.profiles =
    w.live.presence.profiles) (hstore : (records w'.store).users = (records w.store).users) :
    Concord server w' := by
  rw [Concord, hpresence, h, profilesOf_congr hstore]

theorem touch (h : Concord server w) (peer : SocketAddress) (now : Instant) :
    Concord server (w.touch peer now) := by
  rw [World.touch]
  split
  · exact h.of_same (Tracker.profiles_modify _ fun _ => rfl) rfl
  · exact h

-- Whoever joins comes last in both places.
theorem join (h : Concord server w) (hsound : World.Sound server w) {peer : SocketAddress}
    {username : Name} {record : UserRecord} {store : σ} (now : Instant)
    (hstore : Gateway.insertUser w.store server peer.ip username = (.ok record, store)) :
    Concord server (World.setPresence { w with store := store }
      (w.live.presence.join record peer now)) := by
  rcases insertUser_ok hsound.orderly hstore with ⟨-, hrecord, -, hrecords⟩
  have hown : record.server = server := by rw [hrecord]
  have hlast := Tracker.insert_last
    { TrackedUser.ofRecord record now with address := some peer } (hsound.lt_newcomer hstore)
  have hstored := profilesOf_append server (congrArg Records.users hrecords)
  rw [if_pos hown] at hstored
  have hpresence : (w.live.presence.join record peer now).profiles =
      w.live.presence.profiles ++ [record.profile] := by
    rw [Tracker.join, hlast, Tracker.profiles, List.map_append]
    rfl
  exact hpresence.trans (hstored ▸ congrArg (· ++ [record.profile]) h)

/-- Nothing that a handler does makes tracker and store differ. -/
theorem move (h : Concord server w) (hsound : World.Sound server w) {request : Request}
    {handler : Handler} (hmove : Move server request w handler w') : Concord server w' := by
  cases hmove with
  | stayed => exact h
  | joinRefused hstore =>
      exact h.of_same rfl (by rw [(insertUser_error hsound.orderly hstore).2])
  | joined hstore => exact h.join hsound request.now hstore
  | @created _ result _ hstore =>
      refine h.of_same rfl ?_
      cases result with
      | error fault => rw [(insertChannel_error hsound.orderly hstore).2]
      | ok channel => rw [(insertChannel_ok hsound.orderly hstore).2.2]
  | opened _ _ =>
      refine h.of_same ?_ rfl
      rw [World.setPresence, Tracker.openChannel_eq]
      exact Tracker.profiles_modify _ fun _ => rfl
  | sayRefused hstore =>
      exact h.of_same rfl (by rw [(insertMessage_error hsound.orderly hstore).2])
  | said _ _ hstore =>
      refine h.of_same (Tracker.profiles_modify _ fun _ => rfl) ?_
      rw [(insertMessage_ok hsound.orderly hstore).2]

theorem dispatch (h : Concord server w) (hsound : World.Sound server w) (peer : SocketAddress)
    (packet : Bytes) (now : Instant) :
    Concord server (dispatch .standard server peer packet now w).2 := by
  rcases dispatch_moves server peer packet now w with hsame | ⟨handler, payload, -, hmove⟩
  · rw [hsame]
    exact h
  · exact (h.touch peer now).move (hsound.touch peer now) hmove

end World.Concord

end Agreeing

namespace MemoryStore

-- A role is given to nobody if the store says that there is nobody.
theorem withRoleIf_unfound {m m' : MemoryStore} {server : ServerId} {username : String}
    {role : Role} (h : Gateway.updateRole m server username role = (.ok false, m')) :
    (records m').users = (records m).users := by
  rcases Prod.mk.inj h with ⟨hfound, rfl⟩
  have hnobody : m.users.any (goesBy server username) = false := Except.ok.inj hfound
  have hsame : ∀ user ∈ m.users,
      (if goesBy server username user then { user with role := role } else user) = user :=
    fun user huser => if_neg (List.any_eq_false.mp hnobody user huser)
  exact (List.map_congr_left hsame).trans (List.map_id' m.users)

end MemoryStore

namespace Service

variable {s : Service MemoryStore}

/-- A role is given in both places, or in neither. -/
theorem concord_grant (h : World.Concord s.server s.world) (hs : Orderly s.world.store)
    (username : String) (role : Role) :
    World.Concord s.server (s.step (.grant username role)).world := by
  rcases hupdate : Gateway.updateRole s.world.store s.server username role with
    ⟨fault | _ | _, store⟩
  · simp only [step, hupdate]
    exact h.of_same rfl (by rw [(updateRole_error hs hupdate).2])
  · simp only [step, hupdate]
    exact h.of_same rfl (MemoryStore.withRoleIf_unfound (Breakable.change_ok hupdate))
  · simp only [step, hupdate]
    have hstored := profilesOf_withRoleIf s.server s.server
      (congrArg Records.users (updateRole_ok hs hupdate).2)
    rw [if_pos rfl] at hstored
    have hpresence : (s.presence.setRole username role).profiles =
        s.presence.profiles.map (Profile.withRoleIf username role) :=
      Tracker.profiles_setRole username role
    exact hpresence.trans (hstored ▸ congrArg (List.map _) h)

/-- Whatever comes to pass, tracker and store tell the same, if others spare the users
    of the server. -/
theorem concord_step (h : World.Concord s.server s.world) (hs : s.Sound) {o : Occurrence}
    (hspares : o.spares s.server = true) : World.Concord s.server (s.step o).world := by
  cases o with
  | wait ms => exact h
  | packet peer payload => exact h.dispatch hs.world peer payload s.clock
  | broadcast accepts => exact h
  | ask staleAfter => exact h
  | settle alive => exact h.of_same (profiles_applyHeartbeats _ _ _) rfl
  | grant username role => exact concord_grant h hs.world.orderly username role
  | elsewhere request =>
      exact Eq.trans h (request.profilesOf_run hs.world.orderly hspares).symm
  | outage broken => exact h

theorem concord_run (h : World.Concord s.server s.world) (hs : s.Sound)
    {history : List Occurrence} (hspares : ∀ o ∈ history, o.spares s.server = true) :
    World.Concord s.server (s.run history).world := by
  induction history generalizing s with
  | nil => exact h
  | cons o rest ih =>
      have hstep := concord_step h hs (hspares o List.mem_cons_self)
      rw [← s.step_server o] at hstep
      have hrest := ih hstep (hs.step o) fun p hp =>
        s.step_server o ▸ hspares p (List.mem_cons_of_mem _ hp)
      rwa [s.step_server o] at hrest

end Service

/-- Whether others leave the users of a server alone. -/
def Occasion.spares (server : ServerId) (occasion : Occasion) : Bool :=
  match occasion.affair with
  | .elsewhere request => request.spares server
  | _ => true

namespace Venue

/-- A server is upheld, and if it runs, its tracker has the users that the store has for
    it. -/
structure Attuned (server : ServerId) (settings : ServerSettings) (v : Venue MemoryStore) :
    Prop where
  upheld : Upheld server settings v
  concord : v.hosted.isRunning = true → World.Concord server ⟨v.store, v.hosted.live⟩

namespace Attuned

variable {server : ServerId} {settings : ServerSettings} {v : Venue MemoryStore}

-- There is nothing to agree on while a server does not run.
theorem of_idle (h : Upheld server settings v) (hsession : v.hosted.session = none) :
    Attuned server settings v := by
  refine ⟨h, fun hrunning => ?_⟩
  rw [Hosted.isRunning, hsession] at hrunning
  exact absurd hrunning Bool.false_ne_true

theorem start (h : Attuned server settings v) (network : Network) (now : Instant)
    (isTaken : Bool) : Attuned server settings (v.step ⟨network, now, .start isTaken⟩).2 := by
  have hupheld := h.upheld.step ⟨network, now, .start isTaken⟩
  rcases hresult : (v.hosted.start v.store isTaken now).1 with error | ⟨⟩
  · have hsame : (v.step ⟨network, now, .start isTaken⟩).2 = v :=
      (step_failed (congrArg Notice.lifecycle hresult)).1
    rw [hsame]
    exact h
  · rcases v.hosted.start_succeeded v.store hresult with ⟨found, hfound, -, hstart⟩
    have hafter : (v.step ⟨network, now, .start isTaken⟩).2 =
        { v with hosted := v.hosted.opened found now } := by
      simp only [step, hstart]
    rw [hafter] at hupheld ⊢
    refine ⟨hupheld, fun _ => ?_⟩
    have husers := opened_users h.upheld.kept.orderly hfound now
    rw [h.upheld.kept.id] at husers
    have hprofiles : (v.hosted.opened found now).live.presence.profiles =
        profilesOf server v.store := by
      rw [Tracker.profiles, husers, List.map_map]
      rfl
    exact hprofiles

/-- Whatever comes to pass, tracker and store agree while the server runs, if others spare
    its users. -/
theorem step (h : Attuned server settings v) {occasion : Occasion}
    (hspares : occasion.spares server = true) : Attuned server settings (v.step occasion).2 := by
  have hupheld := h.upheld.step occasion
  by_cases hstart : ∃ isTaken, occasion.affair = .start isTaken
  · rcases occasion with ⟨network, now, affair⟩
    rcases hstart with ⟨isTaken, rfl⟩
    exact h.start network now isTaken
  by_cases hstop : occasion.affair = .stop
  · rcases occasion with ⟨network, now, affair⟩
    obtain rfl : affair = .stop := hstop
    exact of_idle hupheld v.hosted.session_stop
  · have hothers : ∀ o : Occurrence, o.isElsewhere = false → o.spares v.hosted.id = true := by
      intro o ho
      cases o <;> first | rfl | simp [Occurrence.isElsewhere] at ho
    have hspares' : ∀ request, occasion.affair = .elsewhere request →
        Occurrence.spares v.hosted.id (.elsewhere request) = true := by
      intro request haffair
      rw [Occasion.spares, haffair] at hspares
      rw [h.upheld.kept.id]
      exact hspares
    have hstart' : ∀ isTaken, occasion.affair ≠ .start isTaken :=
      fun isTaken haffair => hstart ⟨isTaken, haffair⟩
    rcases step_leads (v := v) hothers hspares' hstart' hstop with ⟨hleads, hrunning⟩
    rcases hleads.history with ⟨history, hhistory, hrun⟩
    refine ⟨hupheld, fun hruns => ?_⟩
    rw [hrunning] at hruns
    have hconcord := h.concord hruns
    rw [← h.upheld.kept.id] at hconcord
    have hconcord' := Service.concord_run (s := v.service occasion.now) hconcord
      (h.upheld.sound occasion.now) hhistory
    rw [← hrun] at hconcord'
    rw [← h.upheld.kept.id]
    exact hconcord'

theorem run (h : Attuned server settings v) {occasions : List Occasion}
    (hspares : ∀ occasion ∈ occasions, occasion.spares server = true) :
    Attuned server settings (v.run occasions) := by
  induction occasions generalizing v with
  | nil => exact h
  | cons occasion rest ih =>
      exact ih (h.step (hspares occasion List.mem_cons_self)) fun other hother =>
        hspares other (List.mem_cons_of_mem _ hother)

end Attuned

end Venue

section Looking

/-- Whoever is found behind an address is the one user of its IP address. -/
theorem Tracker.Sound.filter_ip {t : Tracker} (h : t.Sound) (address : SocketAddress) :
    (t.users.filter fun user => decide (user.ip = address.ip)) =
      (t.find? address).toList := by
  have hip : ∀ user ∈ t.users.filter fun user => decide (user.ip = address.ip),
      user.ip = address.ip := fun user huser => of_decide_eq_true (List.mem_filter.mp huser).2
  have hapart := h.apart.filter fun user => decide (user.ip = address.ip)
  rcases hfound : t.find? address with _ | user
  · refine List.filter_eq_nil_iff.mpr fun user huser => ?_
    rw [decide_eq_true_iff]
    exact ip_ne_of_find?_none hfound user huser
  · rcases find?_ip h.users hfound with ⟨hmem, huser⟩
    have hkept : user ∈ t.users.filter fun user => decide (user.ip = address.ip) :=
      List.mem_filter.mpr ⟨hmem, by rw [huser, decide_eq_true_iff]⟩
    generalize t.users.filter (fun user => decide (user.ip = address.ip)) = kept at *
    rcases kept with _ | ⟨first, _ | ⟨second, rest⟩⟩
    · exact absurd hkept List.not_mem_nil
    · rw [List.mem_singleton.mp hkept]
      rfl
    · -- Two users of one IP address are not apart.
      have hfirst := hip first List.mem_cons_self
      have hsecond := hip second (List.mem_cons_of_mem _ List.mem_cons_self)
      exact absurd (hfirst.trans hsecond.symm)
        ((List.pairwise_cons.mp hapart).1 second List.mem_cons_self)

variable {σ : Type} [Gateway σ] [LawfulGateway σ] {server : ServerId} {w : World σ}

/-- Where tracker and store agree, both know the same caller, or neither knows any. -/
theorem World.Concord.caller (h : World.Concord server w) (hsound : w.live.presence.Sound)
    (hs : Orderly w.store) {peer : SocketAddress} {found : List UserRecord}
    (hfound : Gateway.selectUsers w.store { server := some server, ip := some peer.ip } =
      .ok found) :
    found.map UserRecord.profile =
      (w.live.presence.find? peer).toList.map TrackedUser.profile := by
  let here (profile : Profile) : Bool := decide (profile.ip = peer.ip)
  have hstored : found.map UserRecord.profile = (profilesOf server w.store).filter here := by
    rw [selectUsers_ok hs hfound, profilesOf, List.filter_map, List.filter_filter]
    refine congrArg _ (List.filter_congr fun user _ => ?_)
    simp only [UserFilter.admits, agrees, here, Bool.and_true, Function.comp_apply,
      UserRecord.profile]
    rw [Bool.and_comm]
    exact congrArg₂ _ (decide_eq_decide.mpr eq_comm) (decide_eq_decide.mpr eq_comm)
  rw [hstored, ← h, Tracker.profiles, List.filter_map, ← hsound.filter_ip peer]
  rfl

omit [LawfulGateway σ] in
/-- What is answered to who asks for their rights depends on whom the store knows. -/
theorem dispatch_membership (server : ServerId) (peer : SocketAddress) {packet body : Bytes}
    (hheader : RequestHeader.decode packet = (.ok ⟨.membership⟩, body)) (now : Instant)
    (w : World σ) :
    (dispatch .standard server peer packet now w).1 = .handled .membership
      (match Gateway.selectUsers w.store { server := some server, ip := some peer.ip } with
      | .error _ => .ok (.answer (refusalPacket Membership .membership))
      | .ok [] => .error (.unknownUser peer)
      | .ok (user :: _) =>
        .ok (.answer (responsePacket .membership .success (Membership.mk user.role.isAdmin)))) := by
  have hkind : RequestHeader.decode packet = (.ok ⟨Handler.membership.kind⟩, body) := hheader
  rw [dispatch_handled server peer hkind now w, Handler.run, Handler.runMembership]
  simp only [World.touch_store]
  rcases Gateway.selectUsers w.store { server := some server, ip := some peer.ip } with
    fault | _ | ⟨user, others⟩
  · rfl
  · rfl
  · rfl

end Looking

namespace Venue

/-- Tracker and store agree. After any history of starts, stops, datagrams, ticks and roles
    given, on a store in memory that others use too but for the users of this server, a
    server that runs tracks every user once whom the store has for it, with the id, the
    name, the IP address and the role that stand there. So whoever calls is looked up with
    the same result in both places, and who asks for their rights is told the role that is
    tracked, or dropped if nobody is tracked behind their address. -/
theorem tracks_the_store (calls : List StoreRequest) (broken : List StoreMethod)
    (server : ServerId) (settings : ServerSettings) (occasions : List Occasion)
    (hspares : ∀ occasion ∈ occasions, occasion.spares server = true) :
    let store := StoreRequest.runAll MemoryStore.empty calls
    let v := (fresh ⟨store, broken⟩ server settings).run occasions
    v.hosted.isRunning = true →
      v.hosted.live.presence.users.map TrackedUser.profile =
        (v.store.store.users.filter fun user => decide (user.server = server)).map
          UserRecord.profile ∧
      (v.hosted.live.presence.users.map (·.id)).Nodup ∧
      ∀ peer : SocketAddress,
        (∃ found, Gateway.selectUsers v.store.store
            { server := some server, ip := some peer.ip } = .ok found ∧
          found.map UserRecord.profile =
            (v.hosted.live.presence.find? peer).toList.map TrackedUser.profile) ∧
        ∀ packet body now, RequestHeader.decode packet = (.ok ⟨.membership⟩, body) →
          .selectUsers ∉ v.store.broken →
          (dispatch .standard server peer packet now ⟨v.store, v.hosted.live⟩).1 =
            .handled .membership (match v.hosted.live.presence.find? peer with
              | none => .error (.unknownUser peer)
              | some user => .ok (.answer
                  (responsePacket .membership .success (Membership.mk user.role.isAdmin)))) := by
  intro store v hrunning
  have hempty : Apart MemoryStore.empty := List.Pairwise.nil
  rcases StoreRequest.runAll_apart MemoryStore.orderly_empty hempty calls with
    ⟨horderly, hapart⟩
  have hupheld : Upheld server settings
      (fresh (⟨store, broken⟩ : Breakable MemoryStore) server settings) :=
    Upheld.fresh horderly hapart server settings
  have hattuned : Attuned server settings v := (Attuned.of_idle hupheld rfl).run hspares
  have hconcord := hattuned.concord hrunning
  have hpresence : v.hosted.live.presence.Sound := (hattuned.upheld.sound 0).world.presence
  refine ⟨hconcord, hpresence.nodup_ids, fun peer => ?_⟩
  obtain ⟨found, hquery⟩ : ∃ found, Gateway.selectUsers v.store.store
      { server := some server, ip := some peer.ip } = .ok found := ⟨_, rfl⟩
  have hcaller : found.map UserRecord.profile =
      (v.hosted.live.presence.find? peer).toList.map TrackedUser.profile :=
    World.Concord.caller (w := ⟨v.store.store, v.hosted.live⟩) hconcord hpresence
      hattuned.upheld.kept.orderly hquery
  refine ⟨⟨found, hquery, hcaller⟩, fun packet body now hheader hworks => ?_⟩
  have hfound : Gateway.selectUsers v.store { server := some server, ip := some peer.ip } =
      .ok found := (if_neg hworks).trans hquery
  rw [dispatch_membership server peer hheader, hfound]
  revert hcaller
  rcases v.hosted.live.presence.find? peer with _ | user
  · intro hcaller
    rw [List.map_eq_nil_iff.mp hcaller]
  · intro hcaller
    rcases found with _ | ⟨record, others⟩
    · exact absurd hcaller.symm (List.cons_ne_nil _ _)
    · have hrole : record.role = user.role := congrArg Profile.role (List.cons.inj hcaller).1
      simp only [hrole]

/-- Two clients of one name, on a server in memory. -/
def namesakes : List StoreRequest :=
  [.insertServer 7001, .insertUser 7001 Service.alice.ip Service.aliceName,
   .insertUser 7001 Service.bob.ip Service.aliceName]

/-- While the server runs, somebody else adds another server, and an operator makes the
    clients of this name administrators. Then the server is stopped and started. -/
def promotion : List Occasion :=
  [.routed 0 (.start false), .routed 5 (.elsewhere (.insertServer 7002)),
   .routed 6 (.happening (.grant "alice" .admin)), .routed 7 .stop, .routed 8 (.start false)]

/-- The second client is told that they are an administrator, from whatever port. -/
theorem namesake_told_promotion :
    (∀ occasion ∈ promotion, occasion.spares 7001 = true) ∧
      let v := (fresh ⟨StoreRequest.runAll MemoryStore.empty namesakes, []⟩ 7001
        parlour.settings).run promotion
      v.hosted.isRunning = true ∧
      (dispatch .standard 7001 ⟨Service.bob.ip, 5000, 0⟩ (requestPacket .membership ()) 9
        ⟨v.store, v.hosted.live⟩).1 =
          .handled .membership (.ok (.answer
            (responsePacket .membership .success (Membership.mk true)))) := by
  have hspares : ∀ occasion ∈ promotion, occasion.spares 7001 = true := by
    intro occasion hoccasion
    simp only [promotion, List.mem_cons, List.not_mem_nil, or_false] at hoccasion
    rcases hoccasion with rfl | rfl | rfl | rfl | rfl <;> rfl
  let v := (fresh ⟨StoreRequest.runAll MemoryStore.empty namesakes, []⟩ 7001
    parlour.settings).run promotion
  have hrunning : v.hosted.isRunning = true := by decide +kernel
  have hfound : v.hosted.live.presence.find? ⟨Service.bob.ip, 5000, 0⟩ =
      some { id := 2, username := ⟨"alice", by decide⟩, ip := Service.bob.ip, address := none,
             role := .admin, online := false, channel := none, lastContact := 8 } := by
    decide +kernel
  have hbroken : StoreMethod.selectUsers ∉ v.store.broken := by decide +kernel
  have htracks := tracks_the_store namesakes [] 7001 parlour.settings promotion hspares hrunning
  have hanswer := (htracks.2.2 ⟨Service.bob.ip, 5000, 0⟩).2 (requestPacket .membership ()) [] 9 rfl
    hbroken
  rw [hfound] at hanswer
  exact ⟨hspares, hrunning, hanswer⟩

end Venue

end ChatHost
