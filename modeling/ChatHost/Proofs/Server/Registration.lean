import ChatHost.Proofs.Server.Lifecycle
import ChatHost.Proofs.Store.Hosting
import ChatHost.Server.Registry

/-!
# Registration

How a registry gets its servers, and what starting and stopping all of them does.

Nothing is ever taken out of a registry, and nothing in it is replaced: whoever registers a
server has seen before that there is none of this id. So a registry that gets servers keeps
those that it has as they are, running or not, between the new ones (`Enrols`).

A new server is put into the store first. A lot that falls on a server of the registry does not
get as far as that, and one that falls on a server of the store is refused there. So the lot
that is taken in the end is new to both, and one that fails has changed neither (`draw_cases`).

A store may fail at any of these operations, and of what follows only `draw_succeeds` is said
of a store that works.

## Main definitions

* `Registry.Ascending`: Every server is there once.
* `Registry.Enrols`: A registry has got some servers, and is otherwise as it was.

## Theorems

* `Registry.load_enrols`: What is loaded is in the store.
* `Registry.draw_cases`, `Registry.create_cases`: All that can become of a new server.
* `Registry.draw_succeeds`: Where a lot is new, and the store works, there is a new server.
* `Registry.createAll_enrols`, `Registry.bootstrap_enrols`: Several new servers.
* `Registry.startEach_eq`, `Registry.stopEach_eq`: Each server starts and stops by itself.
* `Registry.minServerId_le_lot`: Lots do not fall on the ports of the system.
-/

namespace ChatHost

open Backed

namespace Registry

/-- The servers ascend by id, so that each is there once. -/
def Ascending (r : Registry) : Prop := r.ids.Pairwise (· < ·)

theorem contains_iff (r : Registry) (id : ServerId) : r.contains id = true ↔ id ∈ r.ids := by
  rw [contains, find?, List.find?_isSome, ids, List.mem_map]
  simp only [decide_eq_true_eq]

theorem contains_eq_false_iff (r : Registry) (id : ServerId) :
    r.contains id = false ↔ id ∉ r.ids := by
  rw [← contains_iff, Bool.not_eq_true]

section Adding

variable {h : Hosted} {servers : List Hosted}

theorem insertServer_perm (hnew : h.id ∉ servers.map (·.id)) :
    (insertServer h servers).Perm (h :: servers) := by
  induction servers with
  | nil => exact .refl _
  | cons other rest ih =>
      rw [List.map_cons, List.mem_cons, not_or] at hnew
      rw [insertServer, if_neg hnew.1]
      split
      · exact .refl _
      · exact ((ih hnew.2).cons other).trans (.swap h other rest)

theorem sublist_insertServer (hnew : h.id ∉ servers.map (·.id)) :
    servers.Sublist (insertServer h servers) := by
  induction servers with
  | nil => exact List.nil_sublist _
  | cons other rest ih =>
      rw [List.map_cons, List.mem_cons, not_or] at hnew
      rw [insertServer, if_neg hnew.1]
      split
      · exact List.sublist_cons_self _ _
      · exact (ih hnew.2).cons_cons other

-- Ids are put in order as a store in memory does it.
theorem ids_insertServer (hnew : h.id ∉ servers.map (·.id)) :
    (insertServer h servers).map (·.id) =
      MemoryStore.insertAscending h.id (servers.map (·.id)) := by
  induction servers with
  | nil => rfl
  | cons other rest ih =>
      rw [List.map_cons, List.mem_cons, not_or] at hnew
      rw [insertServer, if_neg hnew.1, List.map_cons, MemoryStore.insertAscending]
      split
      · rfl
      · rw [List.map_cons, ih hnew.2]

end Adding

/-- A registry has got servers that it did not have, all of them stopped, and keeps those that
    it had as they are. -/
structure Enrols (r : Registry) (ids : List ServerId) (r' : Registry) : Prop where
  settings : r'.settings = r.settings
  kept : r.servers.Sublist r'.servers
  mem_iff : ∀ h, h ∈ r'.servers ↔
    h ∈ r.servers ∨ ∃ id ∈ ids, h = { id, settings := r.settings }
  new : ∀ id ∈ ids, r.contains id = false
  ascending : r.Ascending → r'.Ascending

namespace Enrols

variable {r r' r'' : Registry} {ids ids' : List ServerId}

theorem refl (r : Registry) : Enrols r [] r where
  settings := rfl
  kept := .refl _
  mem_iff _ := ⟨Or.inl, fun hmem => hmem.resolve_right fun ⟨_, hid, _⟩ => List.not_mem_nil hid⟩
  new _ hid := absurd hid List.not_mem_nil
  ascending := id

theorem trans (h : Enrols r ids r') (h' : Enrols r' ids' r'') : Enrols r (ids ++ ids') r'' where
  settings := h'.settings.trans h.settings
  kept := h.kept.trans h'.kept
  mem_iff hosted := by
    rw [h'.mem_iff, h.mem_iff, h.settings, or_assoc]
    simp only [List.mem_append, or_and_right, exists_or]
  new id hid := by
    rcases List.mem_append.mp hid with hid | hid
    · exact h.new id hid
    · -- What is new to the larger registry is new to the smaller one.
      rw [contains_eq_false_iff]
      intro hold
      have hnew := (contains_eq_false_iff r' id).mp (h'.new id hid)
      exact hnew ((h.kept.map Hosted.id).subset hold)
  ascending hr := h'.ascending (h.ascending hr)

theorem add {id : ServerId} (hnew : r.contains id = false) : Enrols r [id] (r.add id) := by
  have hid : id ∉ r.servers.map (·.id) := (contains_eq_false_iff r id).mp hnew
  refine ⟨rfl, sublist_insertServer hid, fun h => ?_, fun other hother => ?_, fun hr => ?_⟩
  · refine (insertServer_perm hid).mem_iff.trans ?_
    simp only [List.mem_cons, List.not_mem_nil, or_false, exists_eq_left]
    exact or_comm
  · rw [List.mem_singleton.mp hother]
    exact hnew
  · rw [Ascending, ids, Registry.add, ids_insertServer hid]
    exact MemoryStore.insertAscending_sorted hid hr

end Enrols

theorem addMissing_enrols (r : Registry) (ids : List ServerId) :
    ∃ added, (∀ id ∈ added, id ∈ ids) ∧ r.Enrols added (r.addMissing ids).2 := by
  induction ids generalizing r with
  | nil => exact ⟨[], fun _ hid => hid, .refl r⟩
  | cons id rest ih =>
      rw [addMissing]
      by_cases hknown : r.contains id = true
      · rw [if_pos hknown]
        rcases ih r with ⟨added, hadded, henrols⟩
        exact ⟨added, fun other hother => List.mem_cons_of_mem _ (hadded other hother), henrols⟩
      · rw [if_neg hknown]
        rcases ih (r.add id) with ⟨added, hadded, henrols⟩
        have hnew := Enrols.add (Bool.not_eq_true _ ▸ hknown)
        refine ⟨id :: added, fun other hother => ?_, hnew.trans henrols⟩
        rcases List.mem_cons.mp hother with rfl | hother
        · exact List.mem_cons_self
        · exact List.mem_cons_of_mem _ (hadded other hother)

section Creating

variable {σ : Type} [Gateway σ] [Backed σ] (r : Registry) (store : σ)

/-- What is loaded is in the store. -/
theorem load_enrols : ∃ listed, (∀ id ∈ listed, (backing store).Holds id) ∧
    r.Enrols listed (r.load store).2 := by
  rw [load]
  rcases hlisted : Gateway.selectServers store none with fault | ids
  · exact ⟨[], fun _ hid => absurd hid List.not_mem_nil, .refl r⟩
  · rcases r.addMissing_enrols ids with ⟨added, hadded, henrols⟩
    exact ⟨added, fun id hid => holds_of_listed hlisted id (hadded id hid), henrols⟩

/-- The lot that is taken is new to the store and to the registry. If none is taken, both are
    as they were. -/
theorem draw_cases (lots : List ServerId) :
    (∃ id ∈ lots, ∃ store', r.draw store lots = (.ok id, store', r.add id) ∧
      r.contains id = false ∧ (backing store).Gains [id] (backing store')) ∨
    ∃ fault store', r.draw store lots = (.error fault, store', r) ∧
      backing store' = backing store := by
  induction lots generalizing store with
  | nil => exact Or.inr ⟨_, store, rfl, rfl⟩
  | cons id rest ih =>
      rw [draw]
      by_cases hknown : r.contains id = true
      · rw [if_pos hknown]
        rcases ih store with ⟨other, hother, htaken⟩ | hfailed
        · exact Or.inl ⟨other, List.mem_cons_of_mem _ hother, htaken⟩
        · exact Or.inr hfailed
      · rw [if_neg hknown]
        rcases insertServer_cases store id with
          ⟨store', hadded, hgains⟩ | ⟨fault, store', hrefused, hsame⟩
        · rw [hadded]
          exact Or.inl ⟨id, List.mem_cons_self, store', rfl, Bool.not_eq_true _ ▸ hknown, hgains⟩
        · rw [hrefused, ← hsame]
          -- Only a lot that somebody else has taken is drawn again.
          cases fault with
          | serverExists other =>
              rcases ih store' with ⟨other, hother, htaken⟩ | hfailed
              · exact Or.inl ⟨other, List.mem_cons_of_mem _ hother, htaken⟩
              · exact Or.inr hfailed
          | _ => exact Or.inr ⟨_, store', rfl, rfl⟩

/-- All that can become of a new server. -/
theorem create_cases (lots : List ServerId) :
    (∃ id ∈ lots, ∃ store', r.create store lots = (.ok id, store', r.add id) ∧
      r.contains id = false ∧ (backing store).Gains [id] (backing store')) ∨
    ∃ fault store', r.create store lots = (.error fault, store', r) ∧
      backing store' = backing store := by
  rcases r.draw_cases store (lots.take maxDraws) with ⟨id, hid, htaken⟩ | hfailed
  · exact Or.inl ⟨id, List.mem_of_mem_take hid, htaken⟩
  · exact Or.inr hfailed

/-- A lot is taken if there is one that is new to the registry and the store, and the store
    works. -/
theorem draw_succeeds (hstore : TakesServers σ) {b : Breakable σ}
    (hworks : StoreMethod.insertServer ∉ b.broken) {lots : List ServerId} {id : ServerId}
    (hid : id ∈ lots) (hnew : r.contains id = false) (hfree : ¬ (backing b).Holds id) :
    ∃ taken ∈ lots, ∃ b', r.draw b lots = (.ok taken, b', r.add taken) := by
  induction lots generalizing b with
  | nil => exact absurd hid List.not_mem_nil
  | cons first rest ih =>
      -- A lot that is void leaves the one that is new among the others.
      have hlater {b' : Breakable σ} (hworks' : StoreMethod.insertServer ∉ b'.broken)
          (hfree' : ¬ (backing b').Holds id) (hvoid : id ≠ first) :
          ∃ taken ∈ first :: rest, ∃ b'', r.draw b' rest = (.ok taken, b'', r.add taken) := by
        have hid' : id ∈ rest := (List.mem_cons.mp hid).resolve_left hvoid
        rcases ih hworks' hid' hfree' with ⟨taken, htaken, hdrawn⟩
        exact ⟨taken, List.mem_cons_of_mem _ htaken, hdrawn⟩
      rw [draw]
      by_cases hknown : r.contains first = true
      · rw [if_pos hknown]
        refine hlater hworks hfree ?_
        rintro rfl
        exact absurd (hnew.symm.trans hknown) Bool.false_ne_true
      · rw [if_neg hknown]
        rcases hstore.insertServer_cases hworks first with
          ⟨hheld, b', hrefused, hsame, hbroken⟩ | ⟨b', hadded⟩
        · rw [hrefused]
          refine hlater (hbroken ▸ hworks) (hsame ▸ hfree) ?_
          rintro rfl
          exact hfree hheld
        · rw [hadded]
          exact ⟨first, List.mem_cons_self, b', rfl⟩

/-- Several new servers are there until one fails, and then those before it stay. -/
theorem createAll_enrols (lots : Nat → List ServerId) (count : Nat) :
    ∃ ids, (backing store).Gains ids (backing (r.createAll store lots count).2.1) ∧
      r.Enrols ids (r.createAll store lots count).2.2 ∧ (∀ id ∈ ids, ∃ i, id ∈ lots i) ∧
      ((r.createAll store lots count).1 = .ok ids ∧ ids.length = count ∨
        (∃ fault, (r.createAll store lots count).1 = .error fault) ∧ ids.length < count) := by
  induction count generalizing r store with
  | zero =>
      exact ⟨[], .refl _, .refl r, fun _ hid => absurd hid List.not_mem_nil, Or.inl ⟨rfl, rfl⟩⟩
  | succ count ih =>
      rw [createAll]
      rcases r.create_cases store (lots count) with
        ⟨id, hid, store', hcreated, hnew, hgains⟩ | ⟨fault, store', hfailed, hsame⟩
      · rw [hcreated]
        rcases ih (r.add id) store' with ⟨ids, hmore, henrols, hlots, hresult⟩
        refine ⟨id :: ids, hgains.trans hmore, (Enrols.add hnew).trans henrols, ?_, ?_⟩
        · intro other hother
          rcases List.mem_cons.mp hother with rfl | hother
          · exact ⟨count, hid⟩
          · exact hlots other hother
        · rcases hresult with ⟨hok, hlength⟩ | ⟨⟨fault, hfault⟩, hlength⟩
          · exact Or.inl ⟨by simp only [hok, Except.map], congrArg Nat.succ hlength⟩
          · exact Or.inr ⟨⟨fault, by simp only [hfault, Except.map]⟩, Nat.succ_lt_succ hlength⟩
      · rw [hfailed]
        exact ⟨[], .of_eq hsame, .refl r, fun _ hid => absurd hid List.not_mem_nil,
          Or.inr ⟨⟨fault, rfl⟩, Nat.succ_pos count⟩⟩

/-- Bootstrapping registers what is in the store, and then the new servers. -/
theorem bootstrap_enrols (lots : Nat → List ServerId) (count : Nat) :
    ∃ listed ids, (∀ id ∈ listed, (backing store).Holds id) ∧
      (backing store).Gains ids (backing (r.bootstrap store lots count).2.1) ∧
      r.Enrols (listed ++ ids) (r.bootstrap store lots count).2.2 ∧
      (∀ id ∈ ids, ∃ i, id ∈ lots i) ∧
      ((∃ loaded, (r.bootstrap store lots count).1 = .ok ⟨loaded, ids⟩) ∧ ids.length = count ∨
        (∃ fault, (r.bootstrap store lots count).1 = .error fault) ∧
          (ids = [] ∨ ids.length < count)) := by
  rcases r.load_enrols store with ⟨listed, hlisted, hload⟩
  rw [bootstrap]
  rcases hloaded : r.load store with ⟨fault | loaded, r'⟩
  · rw [hloaded] at hload
    refine ⟨listed, [], hlisted, .refl _, ?_, fun _ hid => absurd hid List.not_mem_nil,
      Or.inr ⟨⟨fault, rfl⟩, Or.inl rfl⟩⟩
    rw [List.append_nil]
    exact hload
  · rw [hloaded] at hload
    rcases r'.createAll_enrols store lots count with ⟨ids, hgains, henrols, hlots, hresult⟩
    refine ⟨listed, ids, hlisted, hgains, hload.trans henrols, hlots, ?_⟩
    rcases hresult with ⟨hok, hlength⟩ | ⟨⟨fault, hfault⟩, hlength⟩
    · exact Or.inl ⟨⟨loaded, by simp only [hok, Except.map]⟩, hlength⟩
    · exact Or.inr ⟨⟨fault, by simp only [hfault, Except.map]⟩, Or.inr hlength⟩

end Creating

section Running

variable {σ : Type} [Gateway σ]

theorem startEach_eq (store : σ) (isTaken : SocketAddress → Bool) (now : Instant)
    (servers : List Hosted) :
    startEach store isTaken now servers =
      (servers.countP fun h => (h.start store (isTaken h.address) now).1.isOk,
        servers.map fun h => (h.start store (isTaken h.address) now).2) := by
  induction servers with
  | nil => rfl
  | cons h rest ih =>
      rw [startEach, ih, List.countP_cons, List.map_cons]
      rcases h.start_cases store (isTaken h.address) now with
        ⟨hrunning, hstart⟩ | ⟨fault, hstopped, -, hstart⟩ | ⟨found, hstopped, -, -, hstart⟩ |
        ⟨found, hstopped, -, -, hstart⟩
      · simp only [hrunning, hstart]
        rfl
      all_goals
        simp only [hstopped, hstart]
        rfl

theorem stopEach_eq (servers : List Hosted) :
    stopEach servers = (servers.countP (·.isRunning), servers.map fun h => h.stop.2) := by
  induction servers with
  | nil => rfl
  | cons h rest ih =>
      rw [stopEach, ih, List.countP_cons, List.map_cons]
      rcases h.stop_cases with ⟨hrunning, hstop⟩ | ⟨hstopped, hstop⟩
      · simp only [hrunning, hstop]
        rfl
      · simp only [hstopped, hstop]
        rfl

end Running

-- A number between two others is drawn between them.
theorem randNat_bounds (gen : StdGen) {lo hi : Nat} (h : lo ≤ hi) :
    lo ≤ (randNat gen lo hi).1 ∧ (randNat gen lo hi).1 ≤ hi := by
  have hle : ∀ v, lo + v % (hi - lo + 1) ≤ hi := by
    intro v
    have hlt := Nat.mod_lt v (Nat.succ_pos (hi - lo))
    rw [Nat.succ_eq_add_one] at hlt
    omega
  simp only [randNat, if_neg (Nat.not_lt.mpr h)]
  exact ⟨Nat.le_add_right lo _, hle _⟩

/-- Lots do not fall on the ports of the system. -/
theorem minServerId_le_lot (seed : Nat) : ∀ lot ∈ lotsOfSeed seed, minServerId ≤ lot := by
  have hdrawn : ∀ (count : Nat) (gen : StdGen), ∀ lot ∈ lotsOfSeed.drawn count gen,
      minServerId ≤ lot := by
    intro count
    induction count with
    | zero => exact fun _ _ hlot => absurd hlot List.not_mem_nil
    | succ count ih =>
        intro gen lot hlot
        have hbounds := randNat_bounds gen (show minServerId.toNat ≤ 65535 by decide)
        rcases hrand : randNat gen minServerId.toNat 65535 with ⟨number, gen'⟩
        simp only [lotsOfSeed.drawn, hrand, List.mem_cons] at hlot hbounds
        rcases hlot with rfl | hlot
        · rw [UInt16.le_iff_toNat_le, UInt16.toNat_ofNat']
          omega
        · exact ih _ lot hlot
  exact hdrawn maxDraws (mkStdGen seed)

end Registry

end ChatHost
