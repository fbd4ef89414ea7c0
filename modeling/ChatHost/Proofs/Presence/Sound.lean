import ChatHost.Presence
import Mathlib.Data.List.Nodup

/-!
# Sound Presence

What is true of the users of a running server as long as nobody tampers with
them, and why it makes the user behind an address unique.

A tracker looks users up by address, in the order in which it keeps them. That
order would matter if two users could have the same address. They cannot, and
the reason has two parts: every address that a tracker holds is at the IP
address that its user joined from (`located`), and no two users joined from the
same one (`apart`). So an address that is looked up can only mean the user of
its IP address, whatever the order (`find?_of_perm`).

Most operations change one user without touching their id or IP address.
`modify_sound` is about all of these at once. What is left are new users, who
come with an id above all others and go to the end (`insert_last`).

## Main definitions

* `TrackedUser.Sound`: What is true of one user.
* `Tracker.Sound`: What is true of all users of a server.
* `Tracker.roster`: The ids and IP addresses of the users.
* `Tracker.Belongs`: An address is at the IP address of a user.

## Theorems

* `modify_sound`: Changing one user.
* `append_sound`: A new user.
* `load_sound`: A server that starts.
* `find?_of_perm`: The user behind an address, in whatever order users stand.
-/

namespace ChatHost

/-- What is true of a user of a running server: online users have been heard
    from, offline users look at nothing, and addresses are at the IP address that
    the user joined from. -/
structure TrackedUser.Sound (user : TrackedUser) : Prop where
  addressed : user.online = true → user.address.isSome = true
  unwatching : user.online = false → user.channel = none
  located : ∀ address, user.address = some address → address.ip = user.ip

namespace Tracker

/-- What is true of the users of a running server: ids ascend, no two users
    joined from the same IP address, and each user is sound. -/
structure Sound (t : Tracker) : Prop where
  ascend : t.users.Pairwise fun u v => u.id < v.id
  apart : t.users.Pairwise fun u v => u.ip ≠ v.ip
  users : ∀ user ∈ t.users, user.Sound

/-- The ids and IP addresses of the users. -/
def roster (t : Tracker) : List (UserId × Ip) := t.users.map fun user => (user.id, user.ip)

/-- An address is at the IP address of the user with an id, if there is one. -/
def Belongs (t : Tracker) (id : UserId) (address : SocketAddress) : Prop :=
  ∀ entry ∈ t.roster, entry.1 = id → address.ip = entry.2

theorem mem_roster {t : Tracker} {user : TrackedUser} (h : user ∈ t.users) :
    (user.id, user.ip) ∈ t.roster :=
  List.mem_map_of_mem h

-- Where ids differ, every user is found under their own.
theorem get?_of_mem {t : Tracker} (hids : (t.users.map (·.id)).Nodup) {user : TrackedUser}
    (hu : user ∈ t.users) : t.get? user.id = some user := by
  rcases hfound : t.get? user.id with _ | found
  · have hnone := List.find?_eq_none.mp hfound user hu
    simp at hnone
  · have hmem := List.mem_of_find?_eq_some hfound
    have hid := List.find?_some hfound
    rw [List.inj_on_of_nodup_map hids hmem hu (of_decide_eq_true hid)]

theorem Sound.nodup_ids {t : Tracker} (h : t.Sound) : (t.users.map (·.id)).Nodup :=
  (List.pairwise_map.mpr h.ascend).nodup

-- Where ids ascend, an id belongs to one user.
theorem Sound.eq_of_id {t : Tracker} (h : t.Sound) {u v : TrackedUser} (hu : u ∈ t.users)
    (hv : v ∈ t.users) (hid : u.id = v.id) : u = v :=
  List.inj_on_of_nodup_map h.nodup_ids hu hv hid

-- Where users are apart, an IP address belongs to one user.
theorem eq_of_ip {users : List TrackedUser} (h : users.Pairwise fun u v => u.ip ≠ v.ip)
    {u v : TrackedUser} (hu : u ∈ users) (hv : v ∈ users) (hip : u.ip = v.ip) : u = v :=
  List.inj_on_of_nodup_map (List.pairwise_map.mpr h) hu hv hip

-- Every user is found under their own id.
theorem Sound.get?_id {t : Tracker} (h : t.Sound) {user : TrackedUser} (hu : user ∈ t.users) :
    t.get? user.id = some user :=
  get?_of_mem h.nodup_ids hu

theorem get?_eq_some {t : Tracker} {id : UserId} {user : TrackedUser}
    (h : t.get? id = some user) : user ∈ t.users ∧ user.id = id := by
  have hid := List.find?_some h
  exact ⟨List.mem_of_find?_eq_some h, of_decide_eq_true hid⟩

section Finding

-- Who is found behind an address is a user of its IP address.
theorem find?_ip {t : Tracker} (h : ∀ user ∈ t.users, user.Sound) {address : SocketAddress}
    {user : TrackedUser} (hfound : t.find? address = some user) :
    user ∈ t.users ∧ user.ip = address.ip := by
  rw [find?] at hfound
  split at hfound
  · -- Somebody has this very address, and it is at their IP address.
    next known hknown =>
    rw [← Option.some.inj hfound]
    have hmem := List.mem_of_find?_eq_some hknown
    have haddress := List.find?_some hknown
    exact ⟨hmem, ((h known hmem).located address (of_decide_eq_true haddress)).symm⟩
  · -- Nobody has, so the IP address has decided.
    have hip := List.find?_some hfound
    exact ⟨List.mem_of_find?_eq_some hfound, of_decide_eq_true hip⟩

-- An address belongs to the user who is found behind it.
theorem Sound.belongs_of_find? {t : Tracker} (h : t.Sound) {address : SocketAddress}
    {user : TrackedUser} (hfound : t.find? address = some user) : t.Belongs user.id address := by
  rcases find?_ip h.users hfound with ⟨hmem, hip⟩
  intro entry hentry hid
  rcases List.mem_map.mp hentry with ⟨other, hother, rfl⟩
  rw [h.eq_of_id hother hmem hid]
  exact hip.symm

-- If nobody is found behind an address, nobody has its IP address.
theorem ip_ne_of_find?_none {t : Tracker} {address : SocketAddress}
    (h : t.find? address = none) : ∀ user ∈ t.users, user.ip ≠ address.ip := by
  intro user hu hip
  rw [find?] at h
  split at h
  · simp at h
  · have hne := List.find?_eq_none.mp h user hu
    exact hne (decide_eq_true hip)

-- A user is found behind every address of their IP address.
theorem find?_of_mem {t : Tracker} (hapart : t.users.Pairwise fun u v => u.ip ≠ v.ip)
    (h : ∀ user ∈ t.users, user.Sound) {address : SocketAddress} {user : TrackedUser}
    (hu : user ∈ t.users) (hip : user.ip = address.ip) : t.find? address = some user := by
  rcases hfound : t.find? address with _ | found
  · exact absurd hip (ip_ne_of_find?_none hfound user hu)
  · rcases find?_ip h hfound with ⟨hmem, hip'⟩
    rw [eq_of_ip hapart hmem hu (hip'.trans hip.symm)]

/-- The user behind an address is the same in whatever order users stand. -/
theorem Sound.find?_of_perm {t : Tracker} (h : t.Sound) {users : List TrackedUser}
    (hperm : users.Perm t.users) (address : SocketAddress) :
    find? ⟨users⟩ address = t.find? address := by
  rcases hfound : t.find? address with _ | user
  · have hne := ip_ne_of_find?_none hfound
    rcases hother : find? ⟨users⟩ address with _ | other
    · rfl
    · -- Whoever is found has the IP address, in one order as in the other.
      have hsound : ∀ user ∈ users, user.Sound := fun user hu => h.users user (hperm.mem_iff.mp hu)
      rcases find?_ip (t := ⟨users⟩) hsound hother with ⟨hmem, hip⟩
      exact absurd hip (hne other (hperm.mem_iff.mp hmem))
  · rcases find?_ip h.users hfound with ⟨hmem, hip⟩
    refine find?_of_mem ?_ ?_ (hperm.mem_iff.mpr hmem) hip
    · exact hperm.symm.pairwise h.apart fun {u v} huv heq => huv heq.symm
    · exact fun user hu => h.users user (hperm.mem_iff.mp hu)

end Finding

section Changing

variable {t : Tracker} {f : TrackedUser → TrackedUser}

-- What a change of a user leaves alone is as before in all of them.
theorem map_modify {β : Type} {g : TrackedUser → β} (hf : ∀ user, g (f user) = g user)
    (id : UserId) : (t.modify id f).users.map g = t.users.map g := by
  rw [modify, List.map_map]
  refine List.map_congr_left fun user _ => ?_
  by_cases huser : user.id = id
  · rw [Function.comp_apply, if_pos huser, hf]
  · rw [Function.comp_apply, if_neg huser]

theorem roster_modify (id : UserId) (hid : ∀ user, (f user).id = user.id)
    (hip : ∀ user, (f user).ip = user.ip) : (t.modify id f).roster = t.roster :=
  map_modify (fun user => Prod.ext (hid user) (hip user)) id

@[simp] theorem roster_markOnline (id : UserId) (address : SocketAddress) (now : Instant) :
    (t.markOnline id address now).roster = t.roster :=
  roster_modify id (fun _ => rfl) fun _ => rfl

@[simp] theorem roster_markOffline (id : UserId) : (t.markOffline id).roster = t.roster :=
  roster_modify id (fun _ => rfl) fun _ => rfl

@[simp] theorem roster_touch (id : UserId) (address : SocketAddress) (now : Instant) :
    (t.touch id address now).roster = t.roster :=
  roster_modify id (fun _ => rfl) fun _ => rfl

@[simp] theorem roster_setChannel (id : UserId) (channel : ChannelId) :
    (t.setChannel id channel).roster = t.roster :=
  roster_modify id (fun _ => rfl) fun _ => rfl

-- Trackers with one roster find the same user, as far as their ids go.
theorem Sound.find?_of_roster {t' : Tracker} (h : t.Sound) (h' : t'.Sound)
    (hroster : t'.roster = t.roster) {address : SocketAddress} {user : TrackedUser}
    (hfound : t.find? address = some user) :
    ∃ user', t'.find? address = some user' ∧ user'.id = user.id := by
  rcases find?_ip h.users hfound with ⟨hmem, hip⟩
  have hentry := mem_roster hmem
  rw [← hroster] at hentry
  rcases List.mem_map.mp hentry with ⟨user', hmem', hsame⟩
  rcases Prod.mk.inj hsame with ⟨hid, hip'⟩
  exact ⟨user', find?_of_mem h'.apart h'.users hmem' (hip'.trans hip), hid⟩

-- Soundness of the list of users is soundness of the roster and of each user.
theorem sound_of_roster {t' : Tracker} (h : t.Sound) (hroster : t'.roster = t.roster)
    (husers : ∀ user ∈ t'.users, user.Sound) : t'.Sound where
  ascend := by
    have hascend : t.roster.Pairwise fun p q => p.1 < q.1 := List.pairwise_map.mpr h.ascend
    rw [← hroster] at hascend
    unfold roster at hascend
    rwa [List.pairwise_map] at hascend
  apart := by
    have hapart : t.roster.Pairwise fun p q => p.2 ≠ q.2 := List.pairwise_map.mpr h.apart
    rw [← hroster] at hapart
    unfold roster at hapart
    rwa [List.pairwise_map] at hapart
  users := husers

/-- Changing a user keeps presence sound if it keeps that user sound. -/
theorem modify_sound (h : t.Sound) (id : UserId) (hid : ∀ user, (f user).id = user.id)
    (hip : ∀ user, (f user).ip = user.ip)
    (hf : ∀ user ∈ t.users, user.id = id → (f user).Sound) : (t.modify id f).Sound := by
  refine sound_of_roster h (roster_modify id hid hip) ?_
  intro user hu
  rcases List.mem_map.mp hu with ⟨old, hold, rfl⟩
  by_cases holdid : old.id = id
  · rw [if_pos holdid]
    exact hf old hold holdid
  · rw [if_neg holdid]
    exact h.users old hold

-- A user who is online, at an address of theirs.
theorem sound_markOnline (h : t.Sound) (id : UserId) (address : SocketAddress) (now : Instant)
    (haddress : t.Belongs id address) :
    (t.markOnline id address now).Sound := by
  refine modify_sound h id (fun _ => rfl) (fun _ => rfl) ?_
  intro user hu huid
  refine ⟨fun _ => rfl, fun hoffline => absurd hoffline (by simp), ?_⟩
  intro other hother
  rw [← Option.some.inj hother]
  exact haddress _ (mem_roster hu) huid

theorem sound_markOffline (h : t.Sound) (id : UserId) : (t.markOffline id).Sound := by
  refine modify_sound h id (fun _ => rfl) (fun _ => rfl) ?_
  intro user _ _
  exact ⟨fun honline => absurd honline (by simp), fun _ => rfl, fun _ hother => by simp at hother⟩

theorem sound_touch (h : t.Sound) (id : UserId) (address : SocketAddress) (now : Instant)
    (haddress : t.Belongs id address) :
    (t.touch id address now).Sound := by
  refine modify_sound h id (fun _ => rfl) (fun _ => rfl) ?_
  intro user hu huid
  refine ⟨fun _ => rfl, (h.users user hu).unwatching, ?_⟩
  intro other hother
  rw [← Option.some.inj hother]
  exact haddress _ (mem_roster hu) huid

-- A change of a user is found under their id.
theorem get?_modify (id : UserId) (hid : ∀ user, (f user).id = user.id) :
    (t.modify id f).get? id = (t.get? id).map f := by
  unfold get? modify
  rw [List.find?_map]
  have hsame : ((fun user => decide (user.id = id)) ∘ fun user =>
      if user.id = id then f user else user) = fun user => decide (user.id = id) := by
    funext user
    by_cases huser : user.id = id
    · rw [Function.comp_apply, if_pos huser, hid]
    · rw [Function.comp_apply, if_neg huser]
  rw [hsame]
  refine Option.map_congr ?_
  intro user hfound
  have huser := List.find?_some hfound
  rw [if_pos (of_decide_eq_true huser)]

-- Two changes of one user are one.
theorem modify_modify (id : UserId) (g : TrackedUser → TrackedUser)
    (hid : ∀ user, (f user).id = user.id) :
    (t.modify id f).modify id g = t.modify id fun user => g (f user) := by
  unfold modify
  rw [List.map_map, Tracker.mk.injEq]
  refine List.map_congr_left ?_
  intro user _
  by_cases huser : user.id = id
  · rw [Function.comp_apply, if_pos huser, if_pos huser, hid, if_pos huser]
  · rw [Function.comp_apply, if_neg huser, if_neg huser, if_neg huser]

@[simp] theorem roster_setRole (username : String) (role : Role) :
    (t.setRole username role).roster = t.roster := by
  unfold roster setRole
  rw [List.map_map]
  refine List.map_congr_left ?_
  intro user _
  by_cases huser : user.username.text = username
  · rw [Function.comp_apply, if_pos huser]
  · rw [Function.comp_apply, if_neg huser]

theorem sound_setRole (h : t.Sound) (username : String) (role : Role) :
    (t.setRole username role).Sound := by
  refine sound_of_roster h (roster_setRole username role) ?_
  intro user hu
  rcases List.mem_map.mp hu with ⟨old, hold, rfl⟩
  have hsound := h.users old hold
  by_cases hname : old.username.text = username
  · rw [if_pos hname]
    exact ⟨hsound.addressed, hsound.unwatching, hsound.located⟩
  · rw [if_neg hname]
    exact hsound

-- Opening a channel is one change of a user.
theorem openChannel_eq (id : UserId) (channel : ChannelId) (address : SocketAddress)
    (now : Instant) :
    (t.setChannel id channel).markOnline id address now = t.modify id fun user =>
      { user with
        online := true, address := some address, channel := some channel, lastContact := now } :=
  modify_modify id _ fun _ => rfl

-- What opening a channel does to a user. Only both changes together keep
-- presence sound: in between, a user who is offline looks at a channel.
theorem sound_openChannel (h : t.Sound) (id : UserId) (channel : ChannelId)
    (address : SocketAddress) (now : Instant)
    (haddress : t.Belongs id address) :
    ((t.setChannel id channel).markOnline id address now).Sound := by
  rw [openChannel_eq]
  refine modify_sound h id (fun _ => rfl) (fun _ => rfl) ?_
  intro user hu huid
  refine ⟨fun _ => rfl, fun hoffline => absurd hoffline (by simp), ?_⟩
  intro other hother
  rw [← Option.some.inj hother]
  exact haddress _ (mem_roster hu) huid

-- Who has opened a channel is online and looks at it.
theorem Sound.get?_openChannel (h : t.Sound) {user : TrackedUser} (hu : user ∈ t.users)
    (channel : ChannelId) (address : SocketAddress) (now : Instant) :
    ((t.setChannel user.id channel).markOnline user.id address now).get? user.id =
      some { user with
        online := true, address := some address, channel := some channel, lastContact := now } := by
  have hopened : ((t.setChannel user.id channel).markOnline user.id address now).get? user.id =
      (t.get? user.id).map fun user => { user with
        online := true, address := some address, channel := some channel, lastContact := now } := by
    rw [openChannel_eq]
    exact get?_modify user.id fun _ => rfl
  rw [hopened, h.get?_id hu, Option.map_some]

end Changing

section Growing

variable {t : Tracker}

-- A user whose id is above all others goes to the end.
theorem insert_last (user : TrackedUser) (h : ∀ other ∈ t.users, other.id < user.id) :
    t.insert user = ⟨t.users ++ [user]⟩ := by
  rcases t with ⟨users⟩
  rw [insert, Tracker.mk.injEq]
  induction users with
  | nil => rfl
  | cons other rest ih =>
      have hlt : other.id < user.id := h other List.mem_cons_self
      have hne : ¬ user.id = other.id := fun heq => UInt32.lt_irrefl _ (heq ▸ hlt)
      rw [insertUser, if_neg (UInt32.lt_asymm hlt), if_neg hne,
        ih fun v hv => h v (List.mem_cons_of_mem _ hv), List.cons_append]

/-- A new user keeps presence sound, if they come with a new id and from a new
    IP address. -/
theorem append_sound (h : t.Sound) (user : TrackedUser) (hsound : user.Sound)
    (hid : ∀ other ∈ t.users, other.id < user.id) (hip : ∀ other ∈ t.users, other.ip ≠ user.ip) :
    Sound ⟨t.users ++ [user]⟩ where
  ascend := by
    refine List.pairwise_append.mpr ⟨h.ascend, List.pairwise_singleton _ _, ?_⟩
    intro other hother last hlast
    rw [List.mem_singleton.mp hlast]
    exact hid other hother
  apart := by
    refine List.pairwise_append.mpr ⟨h.apart, List.pairwise_singleton _ _, ?_⟩
    intro other hother last hlast
    rw [List.mem_singleton.mp hlast]
    exact hip other hother
  users other hother := by
    rcases List.mem_append.mp hother with hother | hother
    · exact h.users other hother
    · rw [List.mem_singleton.mp hother]
      exact hsound

theorem sound_empty : empty.Sound :=
  ⟨List.Pairwise.nil, List.Pairwise.nil, fun _ h => absurd h (by simp [empty])⟩

-- A tracker that is loaded with users in ascending order has them in this
-- order.
theorem load_ascending (records : List UserRecord) (now : Instant)
    (h : records.Pairwise fun u v => u.id < v.id) :
    load records now = ⟨records.map fun record => .ofRecord record now⟩ := by
  -- The fold starts from what has been loaded so far, whatever that is, as long as
  -- all that is left to load comes behind it.
  have hfold : ∀ t : Tracker, (∀ user ∈ t.users, ∀ record ∈ records, user.id < record.id) →
      records.foldl (fun t record => t.insert (.ofRecord record now)) t =
        ⟨t.users ++ records.map fun record => .ofRecord record now⟩ := by
    induction records with
    | nil =>
        intro t _
        rw [List.foldl_nil, List.map_nil, List.append_nil]
    | cons record rest ih =>
        intro t ht
        rcases List.pairwise_cons.mp h with ⟨hrecord, hrest⟩
        have hlast := insert_last (t := t) (.ofRecord record now)
          fun user hu => ht user hu record List.mem_cons_self
        rw [List.foldl_cons, hlast, ih hrest, List.map_cons, List.append_assoc,
          List.singleton_append]
        intro user hu later hlater
        rcases List.mem_append.mp hu with hu | hu
        · exact ht user hu later (List.mem_cons_of_mem _ hlater)
        · rw [List.mem_singleton.mp hu]
          exact hrecord later hlater
  exact hfold empty fun user hu => absurd hu (by simp [empty])

/-- A server that starts is sound if its users are apart in the store. -/
theorem load_sound (records : List UserRecord) (now : Instant)
    (hascend : records.Pairwise fun u v => u.id < v.id)
    (hapart : records.Pairwise fun u v => u.ip ≠ v.ip) : (load records now).Sound := by
  rw [load_ascending records now hascend]
  refine ⟨List.pairwise_map.mpr hascend, List.pairwise_map.mpr hapart, ?_⟩
  intro user hu
  rcases List.mem_map.mp hu with ⟨record, -, rfl⟩
  exact ⟨fun honline => absurd honline (by simp [TrackedUser.ofRecord]), fun _ => rfl,
    fun _ haddress => by simp [TrackedUser.ofRecord] at haddress⟩

end Growing

/-- Who is asked whether they are there: everybody who is online at some address and
    has been silent for long enough, at this address. -/
theorem mem_stale {t : Tracker} {threshold : Nat} {now : Instant} {entry : StaleUser} :
    entry ∈ t.stale threshold now ↔ ∃ user ∈ t.users, user.online = true ∧
      threshold ≤ now - user.lastContact ∧ user.address = some entry.address ∧
      user.id = entry.id ∧ user.lastContact = entry.lastContact := by
  rw [stale, List.mem_filterMap]
  refine exists_congr fun user => ?_
  rw [List.mem_filter, isStale, Bool.and_eq_true, decide_eq_true_eq, Option.map_eq_some_iff]
  constructor
  · rintro ⟨⟨hu, honline, hsilent⟩, address, haddress, rfl⟩
    exact ⟨hu, honline, hsilent, haddress, rfl, rfl⟩
  · rintro ⟨hu, honline, hsilent, haddress, hid, hlast⟩
    refine ⟨⟨hu, honline, hsilent⟩, entry.address, haddress, ?_⟩
    rw [hid, hlast]

-- Nobody is asked twice.
theorem nodup_stale {t : Tracker} (hids : (t.users.map (·.id)).Nodup) (threshold : Nat)
    (now : Instant) : ((t.stale threshold now).map (·.id)).Nodup := by
  have hne : t.users.Pairwise fun u v => u.id ≠ v.id := List.pairwise_map.mp hids
  refine List.pairwise_map.mpr ((hne.filter _).filterMap _ ?_)
  intro u v huv entry hentry other hother
  rcases Option.map_eq_some_iff.mp hentry with ⟨-, -, rfl⟩
  rcases Option.map_eq_some_iff.mp hother with ⟨-, -, rfl⟩
  exact huv

end Tracker

end ChatHost
