import ChatHost.Proofs.Presence.Sound
import ChatHost.Server.Heartbeat

/-!
# Who is Found after a Change

What a change of one user means for everybody who is looked up.

A tracker is changed one user at a time, and looked up by id or by address. By
id, the user who was changed is found as changed and everybody else is found as
before (`get?_modify`, `get?_modify_ne`). By address there is one thing to say:
whoever is found behind an address, and is then noted to have been heard from at
it, is found behind it still (`find?_touch`).

None of this needs presence to be sound. It holds of every tracker, so it may be
used where nothing is known of how a tracker came about, nor of the store that
its users were read from. What such a tracker can be relied on for is that its
users stand in order, since every insertion puts a user where they belong.

## Main definitions

* `Tracker.Ascends`: Users stand in ascending order of their ids.
* `Tracker.Gone`: A user is offline, and nothing is known of where they are.
* `TrackedUser.judged`: What the result of a heartbeat makes of a user.

## Theorems

* `get?_modify_ne`, `get?_insert`: Who is found by id after a change.
* `find?_touch`: Who is found by address after a sign of life.
* `Ascends.insert`, `ascends_load`: Users stand in order.
* `get?_applyHeartbeats`: Who is found after a sweep.
* `Tracker.Gone.applyHeartbeats`: A sweep is nothing to those who are gone.
* `demoted_eq`: How many a sweep takes offline.
-/

namespace ChatHost

namespace Tracker

variable {t : Tracker} {f : TrackedUser → TrackedUser}

-- A change of one user is nothing to the others.
theorem get?_modify_ne {id other : UserId} (hid : ∀ user, (f user).id = user.id)
    (hne : other ≠ id) : (t.modify id f).get? other = t.get? other := by
  unfold get? modify
  rw [List.find?_map]
  have hsame : ((fun user => decide (user.id = other)) ∘ fun user =>
      if user.id = id then f user else user) = fun user => decide (user.id = other) := by
    funext user
    by_cases huser : user.id = id
    · rw [Function.comp_apply, if_pos huser, hid]
    · rw [Function.comp_apply, if_neg huser]
  rw [hsame]
  refine (Option.map_congr ?_).trans Option.map_id'
  intro user hfound
  have huser := List.find?_some hfound
  rw [if_neg fun heq => hne ((of_decide_eq_true huser).symm.trans heq)]

-- Who is found after a change of somebody.
theorem get?_modify_some (hf : ∀ user, (f user).id = user.id) {id : UserId} {user : TrackedUser}
    (h : t.get? id = some user) (changed : UserId) :
    (t.modify changed f).get? id = some (if id = changed then f user else user) := by
  by_cases hid : id = changed
  · subst hid
    rw [get?_modify id hf, h, if_pos rfl, Option.map_some]
  · rw [get?_modify_ne hf hid, h, if_neg hid]

theorem get?_markOnline (id : UserId) (address : SocketAddress) (now : Instant) :
    (t.markOnline id address now).get? id = (t.get? id).map fun user =>
      { user with online := true, address := some address, lastContact := now } :=
  get?_modify id fun _ => rfl

theorem get?_markOffline (id : UserId) :
    (t.markOffline id).get? id = (t.get? id).map fun user =>
      { user with online := false, address := none, channel := none } :=
  get?_modify id fun _ => rfl

theorem get?_touch (id : UserId) (address : SocketAddress) (now : Instant) :
    (t.touch id address now).get? id = (t.get? id).map fun user =>
      { user with address := some address, lastContact := now } :=
  get?_modify id fun _ => rfl

-- Who is tracked is found, in place of whoever had this id.
theorem get?_insert (user : TrackedUser) (id : UserId) :
    (t.insert user).get? id = if user.id = id then some user else t.get? id := by
  rcases t with ⟨users⟩
  simp only [get?, insert]
  induction users with
  | nil => by_cases hid : user.id = id <;> simp [insertUser, hid]
  | cons other rest ih =>
      rw [insertUser]
      split
      · by_cases hid : user.id = id <;> simp [hid]
      · split
        · next hsame => by_cases hid : user.id = id <;> simp [← hsame, hid]
        · next hother =>
          by_cases hid : other.id = id
          · have hne : ¬ user.id = id := fun heq => hother (heq.trans hid.symm)
            simp [hid, hne]
          · simp [hid, ih]

theorem mem_of_find? {address : SocketAddress} {user : TrackedUser}
    (h : t.find? address = some user) : user ∈ t.users := by
  rw [find?] at h
  split at h
  · next known hknown =>
    rw [← Option.some.inj h]
    exact List.mem_of_find?_eq_some hknown
  · exact List.mem_of_find?_eq_some h

-- Everybody who is tracked is found under their id, or somebody else who has it.
theorem exists_get? {user : TrackedUser} (h : user ∈ t.users) :
    ∃ found, t.get? user.id = some found := by
  refine Option.isSome_iff_exists.mp ?_
  rw [get?, List.find?_isSome]
  exact ⟨user, h, decide_eq_true rfl⟩

-- Nobody is tracked under an id who is not on the roster.
theorem get?_none_of_roster {t' : Tracker} (hroster : t'.roster = t.roster) {id : UserId}
    (h : t.get? id = none) : t'.get? id = none := by
  rcases hfound : t'.get? id with _ | user
  · rfl
  · rcases get?_eq_some hfound with ⟨hmem, rfl⟩
    have hentry := mem_roster hmem
    rw [hroster] at hentry
    rcases List.mem_map.mp hentry with ⟨other, hother, hsame⟩
    have hne := List.find?_eq_none.mp h other hother
    exact absurd (decide_eq_true (Prod.mk.inj hsame).1) hne

/-- Whoever is found behind an address is found behind it after a sign of life
    from there. -/
theorem find?_touch {address : SocketAddress} {user : TrackedUser}
    (h : t.find? address = some user) (now : Instant) :
    ∃ found, (t.touch user.id address now).find? address = some found ∧ found.id = user.id := by
  let heard (other : TrackedUser) : TrackedUser :=
    if other.id = user.id then { other with address := some address, lastContact := now } else other
  let behind (other : TrackedUser) : Bool := decide (other.address = some address)
  -- Whoever is found was the first behind the address, or nobody was.
  have hfirst : ∀ users : List TrackedUser,
      (users.find? behind = some user ∨ users.find? behind = none ∧ user ∈ users) →
      ∃ found, (users.map heard).find? behind = some found ∧ found.id = user.id := by
    intro users
    induction users with
    | nil => simp
    | cons other rest ih =>
        intro hfound
        by_cases hother : other.id = user.id
        · have hheard : heard other =
            { other with address := some address, lastContact := now } := if_pos hother
          refine ⟨heard other, ?_, by rw [hheard, hother]⟩
          rw [List.map_cons, List.find?_cons_of_pos (by simp [hheard, behind])]
        · have hheard : heard other = other := if_neg hother
          have hne : other ≠ user := fun heq => hother (congrArg TrackedUser.id heq)
          by_cases hbehind : behind other = true
          · rw [List.find?_cons_of_pos hbehind] at hfound
            simp [hne] at hfound
          · rw [List.find?_cons_of_neg hbehind, List.mem_cons] at hfound
            rw [List.map_cons, hheard, List.find?_cons_of_neg hbehind]
            exact ih (hfound.imp_right fun ⟨hnone, hmem⟩ =>
              ⟨hnone, hmem.resolve_left fun heq => hne heq.symm⟩)
  have hmem := mem_of_find? h
  have hbefore : t.users.find? behind = some user ∨
      t.users.find? behind = none ∧ user ∈ t.users := by
    rw [find?] at h
    split at h
    · next known hknown => exact Or.inl (hknown.trans h)
    · next hnone => exact Or.inr ⟨hnone, hmem⟩
  rcases hfirst t.users hbefore with ⟨found, hfound, hid⟩
  refine ⟨found, ?_, hid⟩
  have hfound' : ((t.touch user.id address now).users.find? fun other =>
      decide (other.address = some address)) = some found := hfound
  rw [find?, hfound']

theorem get?_setRole (username : String) (role : Role) (id : UserId) :
    (t.setRole username role).get? id = (t.get? id).map fun user =>
      if user.username.text = username then { user with role := role } else user := by
  unfold get? setRole
  rw [List.find?_map]
  have hsame : ((fun user => decide (user.id = id)) ∘ fun user : TrackedUser =>
      if user.username.text = username then { user with role := role } else user) =
      fun user => decide (user.id = id) := by
    funext user
    by_cases huser : user.username.text = username
    · rw [Function.comp_apply, if_pos huser]
    · rw [Function.comp_apply, if_neg huser]
  rw [hsame]

-- Whoever is in a list after an insertion was inserted or was there before.
theorem mem_insertUser {user other : TrackedUser} {users : List TrackedUser}
    (h : other ∈ insertUser user users) : other = user ∨ other ∈ users := by
  induction users with
  | nil => exact Or.inl (List.mem_singleton.mp h)
  | cons first rest ih =>
      rw [insertUser] at h
      split at h
      · exact List.mem_cons.mp h
      · split at h
        · exact (List.mem_cons.mp h).imp_right (List.mem_cons_of_mem _)
        · rcases List.mem_cons.mp h with rfl | hrest
          · exact Or.inr List.mem_cons_self
          · exact (ih hrest).imp_right (List.mem_cons_of_mem _)

-- What holds of an empty tracker, and goes on to hold when a user of the store is
-- tracked, holds of a server that starts.
theorem load_induction {P : Tracker → Prop} (records : List UserRecord) (now : Instant)
    (hempty : P empty)
    (hinsert : ∀ (t : Tracker) (record : UserRecord), P t →
      P (t.insert (.ofRecord record now))) : P (load records now) := by
  have hfold : ∀ (records : List UserRecord) (t : Tracker), P t →
      P (records.foldl (fun t record => t.insert (.ofRecord record now)) t) := by
    intro records
    induction records with
    | nil => exact fun t ht => ht
    | cons record rest ih => exact fun t ht => ih _ (hinsert t record ht)
  exact hfold records empty hempty

section Order

/-- Users stand in ascending order of their ids. -/
def Ascends (t : Tracker) : Prop := t.users.Pairwise fun u v => u.id < v.id

theorem ascends_iff : t.Ascends ↔ t.roster.Pairwise fun u v => u.1 < v.1 := by
  rw [roster, List.pairwise_map]
  rfl

theorem Ascends.nodup_ids (h : t.Ascends) : (t.users.map (·.id)).Nodup :=
  (List.pairwise_map.mpr h).nodup

-- What does not change who is tracked does not change the order.
theorem Ascends.of_roster (h : t.Ascends) {t' : Tracker} (hroster : t'.roster = t.roster) :
    t'.Ascends := by
  rw [ascends_iff, hroster]
  exact ascends_iff.mp h

/-- Whoever is added, and in place of whom, users stand in order. -/
theorem Ascends.insert (h : t.Ascends) (user : TrackedUser) : (t.insert user).Ascends := by
  rcases t with ⟨users⟩
  simp only [Ascends, Tracker.insert] at h ⊢
  induction users with
  | nil => exact List.pairwise_singleton _ _
  | cons first rest ih =>
      rcases List.pairwise_cons.mp h with ⟨hfirst, hrest⟩
      rw [insertUser]
      split
      · next hlt =>
        refine List.pairwise_cons.mpr ⟨?_, h⟩
        intro other hother
        rcases List.mem_cons.mp hother with rfl | hother
        · exact hlt
        · exact UInt32.lt_trans hlt (hfirst other hother)
      · next hge =>
        split
        · next hsame =>
          exact List.pairwise_cons.mpr ⟨fun other hother => hsame ▸ hfirst other hother, hrest⟩
        · next hne =>
          refine List.pairwise_cons.mpr ⟨?_, ih hrest⟩
          intro other hother
          rcases mem_insertUser hother with rfl | hother
          · exact UInt32.lt_of_le_of_ne (UInt32.not_lt.mp hge) fun heq => hne heq.symm
          · exact hfirst other hother

theorem ascends_empty : empty.Ascends := List.Pairwise.nil

/-- A server that starts has its users in order, whatever order the store lists them
    in. -/
theorem ascends_load (records : List UserRecord) (now : Instant) : (load records now).Ascends :=
  load_induction records now ascends_empty fun _ _ h => h.insert _

end Order

/-- A user is tracked and offline, and nothing is known of where they are and what
    they look at. -/
def Gone (t : Tracker) (id : UserId) : Prop :=
  ∃ user, t.get? id = some user ∧ user.online = false ∧ user.address = none ∧
    user.channel = none

-- Whoever is gone stays gone as long as they are found as before.
theorem Gone.of_get? {id : UserId} (h : t.Gone id) {t' : Tracker} (hsame : t'.get? id = t.get? id) :
    t'.Gone id := by
  rcases h with ⟨user, huser, hgone⟩
  exact ⟨user, hsame.trans huser, hgone⟩

theorem Gone.setRole {id : UserId} (h : t.Gone id) (username : String) (role : Role) :
    (t.setRole username role).Gone id := by
  rcases h with ⟨user, huser, honline, haddress, hchannel⟩
  rw [Gone, get?_setRole, huser, Option.map_some]
  by_cases hname : user.username.text = username
  · rw [if_pos hname]
    exact ⟨_, rfl, honline, haddress, hchannel⟩
  · rw [if_neg hname]
    exact ⟨_, rfl, honline, haddress, hchannel⟩

end Tracker

section Judging

/-- What the result of a heartbeat makes of a user. One who is offline or has been
    heard from since stays as they are. -/
def TrackedUser.judged (user : TrackedUser) (now : Instant) (entry : StaleUser) (alive : Bool) :
    TrackedUser :=
  if user.online && decide (user.lastContact = entry.lastContact) then
    if alive then
      { user with online := true, address := some entry.address, lastContact := now }
    else { user with online := false, address := none, channel := none }
  else user

theorem TrackedUser.judged_alive {user : TrackedUser} {entry : StaleUser} (now : Instant)
    (h : (user.online && decide (user.lastContact = entry.lastContact)) = true) :
    user.judged now entry true =
      { user with online := true, address := some entry.address, lastContact := now } := by
  rw [judged, if_pos h, if_pos rfl]

theorem TrackedUser.judged_silent {user : TrackedUser} {entry : StaleUser} (now : Instant)
    (h : (user.online && decide (user.lastContact = entry.lastContact)) = true) :
    user.judged now entry false =
      { user with online := false, address := none, channel := none } := by
  rw [judged, if_pos h, if_neg Bool.false_ne_true]

theorem TrackedUser.judged_news {user : TrackedUser} {entry : StaleUser} (now : Instant)
    (alive : Bool)
    (h : ¬(user.online && decide (user.lastContact = entry.lastContact)) = true) :
    user.judged now entry alive = user := by
  rw [judged, if_neg h]

variable {t : Tracker}

-- A result takes a user offline if they were silent and are as they were.
theorem isUnchanged_and_silent (now : Instant) (entry : StaleUser) (alive : Bool) :
    (isUnchanged t entry && !alive) = ((t.get? entry.id).any (·.online) &&
      ((t.get? entry.id).map fun user => user.judged now entry alive).any (!·.online)) := by
  rw [isUnchanged]
  rcases t.get? entry.id with _ | user
  · rfl
  · by_cases hsame : (user.online && decide (user.lastContact = entry.lastContact)) = true
    · have honline : user.online = true := (Bool.and_eq_true_iff.mp hsame).1
      cases alive with
      | true =>
          simp only [Option.map_some, Option.any_some, TrackedUser.judged_alive now hsame,
            Bool.not_true, Bool.and_false]
      | false =>
          simp only [Option.map_some, Option.any_some, TrackedUser.judged_silent now hsame,
            hsame, Bool.not_false, Bool.and_true]
          exact honline.symm
    · simp only [Option.map_some, Option.any_some, TrackedUser.judged_news now alive hsame,
        Bool.eq_false_iff.mpr hsame, Bool.false_and, Bool.and_not_self]

-- One result takes a user offline, or online at the address that was asked.
theorem applyHeartbeat_cases (now : Instant) (t : Tracker) (user : StaleUser) (alive : Bool) :
    applyHeartbeat now t user alive = t ∨
      applyHeartbeat now t user alive = t.markOnline user.id user.address now ∨
      applyHeartbeat now t user alive = t.markOffline user.id := by
  rw [applyHeartbeat]
  split
  · exact Or.inl rfl
  · split
    · exact Or.inr (Or.inl rfl)
    · exact Or.inr (Or.inr rfl)

@[simp] theorem roster_applyHeartbeat (now : Instant) (t : Tracker) (user : StaleUser)
    (alive : Bool) : (applyHeartbeat now t user alive).roster = t.roster := by
  rcases applyHeartbeat_cases now t user alive with hsame | honline | hoffline
  · rw [hsame]
  · rw [honline, Tracker.roster_markOnline]
  · rw [hoffline, Tracker.roster_markOffline]

/-- A sweep does not change who is tracked. -/
@[simp] theorem roster_applyHeartbeats (now : Instant) (results : List (StaleUser × Bool))
    (t : Tracker) : (applyHeartbeats now results t).1.roster = t.roster := by
  induction results generalizing t with
  | nil => rfl
  | cons result rest ih =>
      rw [applyHeartbeats]
      exact (ih _).trans (roster_applyHeartbeat now t result.1 result.2)

-- A result is judged by what is known of its user.
theorem get?_applyHeartbeat (now : Instant) (entry : StaleUser) (alive : Bool) :
    (applyHeartbeat now t entry alive).get? entry.id =
      (t.get? entry.id).map fun user => user.judged now entry alive := by
  rw [applyHeartbeat]
  rcases hfound : t.get? entry.id with _ | user
  · have hchanged : isUnchanged t entry = false := by rw [isUnchanged, hfound]
    rw [hchanged, Bool.not_false, if_pos rfl, hfound, Option.map_none]
  · by_cases hsame : (user.online && decide (user.lastContact = entry.lastContact)) = true
    · have hunchanged : isUnchanged t entry = true := by rw [isUnchanged, hfound]; exact hsame
      rw [hunchanged, Bool.not_true, if_neg Bool.false_ne_true, Option.map_some]
      cases alive with
      | true =>
          rw [if_pos rfl, Tracker.get?_markOnline, hfound, Option.map_some,
            TrackedUser.judged_alive now hsame]
      | false =>
          rw [if_neg Bool.false_ne_true, Tracker.get?_markOffline, hfound, Option.map_some,
            TrackedUser.judged_silent now hsame]
    · have hchanged : isUnchanged t entry = false := by
        rw [isUnchanged, hfound]
        exact Bool.eq_false_iff.mpr hsame
      rw [hchanged, Bool.not_false, if_pos rfl, hfound, Option.map_some,
        TrackedUser.judged_news now alive hsame]

-- A result is nothing to other users.
theorem get?_applyHeartbeat_ne (now : Instant) (entry : StaleUser) (alive : Bool) {id : UserId}
    (hne : id ≠ entry.id) : (applyHeartbeat now t entry alive).get? id = t.get? id := by
  rw [applyHeartbeat]
  split
  · rfl
  · split
    · exact Tracker.get?_modify_ne (fun _ => rfl) hne
    · exact Tracker.get?_modify_ne (fun _ => rfl) hne

-- Who is not asked is as before.
theorem get?_applyHeartbeats_ne (now : Instant) (results : List (StaleUser × Bool))
    {id : UserId} (h : ∀ result ∈ results, result.1.id ≠ id) :
    (applyHeartbeats now results t).1.get? id = t.get? id := by
  induction results generalizing t with
  | nil => rfl
  | cons result rest ih =>
      rcases result with ⟨entry, alive⟩
      rw [applyHeartbeats]
      refine (ih fun later hlater => h later (List.mem_cons_of_mem _ hlater)).trans ?_
      exact get?_applyHeartbeat_ne now entry alive (h _ List.mem_cons_self).symm

-- The results of a sweep are nothing to those who are gone.
theorem Tracker.Gone.applyHeartbeats {id : UserId} (h : t.Gone id) (now : Instant)
    (results : List (StaleUser × Bool)) : (applyHeartbeats now results t).1.Gone id := by
  induction results generalizing t with
  | nil => exact h
  | cons result rest ih =>
      rcases result with ⟨entry, alive⟩
      rw [ChatHost.applyHeartbeats]
      refine ih (h.of_get? ?_)
      by_cases hid : id = entry.id
      · subst hid
        rcases h with ⟨user, huser, honline, -⟩
        rw [get?_applyHeartbeat, huser, Option.map_some, TrackedUser.judged_news now alive]
        simp [honline]
      · exact get?_applyHeartbeat_ne now entry alive hid

/-- After a sweep that asks nobody twice, everybody who was asked is judged by
    their own result. -/
theorem get?_applyHeartbeats (now : Instant) (results : List (StaleUser × Bool))
    (hids : (results.map fun result => result.1.id).Nodup) {entry : StaleUser} {alive : Bool}
    (h : (entry, alive) ∈ results) :
    (applyHeartbeats now results t).1.get? entry.id =
      (t.get? entry.id).map fun user => user.judged now entry alive := by
  induction results generalizing t with
  | nil => exact absurd h List.not_mem_nil
  | cons result rest ih =>
      rcases result with ⟨first, firstAlive⟩
      rw [List.map_cons, List.nodup_cons] at hids
      rw [applyHeartbeats]
      rcases List.mem_cons.mp h with heq | hmem
      · rcases Prod.mk.inj heq with ⟨rfl, rfl⟩
        rw [← get?_applyHeartbeat]
        refine get?_applyHeartbeats_ne now rest ?_
        intro later hlater heq
        exact hids.1 (List.mem_map.mpr ⟨later, hlater, heq⟩)
      · have hne : entry.id ≠ first.id := fun heq =>
          hids.1 (List.mem_map.mpr ⟨(entry, alive), hmem, heq⟩)
        rw [ih hids.2 hmem, get?_applyHeartbeat_ne now first firstAlive hne]

/-- A sweep takes as many offline as have not answered and are as they were. -/
theorem demoted_eq (now : Instant) (results : List (StaleUser × Bool))
    (hids : (results.map fun result => result.1.id).Nodup) :
    (applyHeartbeats now results t).2 =
      (results.filter fun result => isUnchanged t result.1 && !result.2).length := by
  induction results generalizing t with
  | nil => rfl
  | cons result rest ih =>
      rcases result with ⟨first, alive⟩
      rw [List.map_cons, List.nodup_cons] at hids
      -- The first result changes nobody who comes later.
      have hrest : ∀ later ∈ rest, isUnchanged (applyHeartbeat now t first alive) later.1 =
          isUnchanged t later.1 := by
        intro later hlater
        have hne : later.1.id ≠ first.id := fun heq =>
          hids.1 (List.mem_map.mpr ⟨later, hlater, heq⟩)
        rw [isUnchanged, get?_applyHeartbeat_ne now first alive hne, isUnchanged]
      have hfilter : (rest.filter fun later =>
          isUnchanged (applyHeartbeat now t first alive) later.1 && !later.2) =
          rest.filter fun later => isUnchanged t later.1 && !later.2 := by
        refine List.filter_congr ?_
        intro later hlater
        rw [hrest later hlater]
      rw [applyHeartbeats]
      simp only [ih hids.2, hfilter, List.filter_cons]
      split
      · rw [List.length_cons, Nat.add_comm]
      · rw [Nat.zero_add]

end Judging

end ChatHost
