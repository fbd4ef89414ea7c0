import ChatHost.Proofs.Server.Registration

/-!
# A Registry over Time

What is true of a registry whatever has been done with it, while the store fails, ports are
taken, and other programs add servers of their own.

The registry is told to load, to add servers, and to start and stop all of them. In between a
server that runs goes on by itself: its users and what is queued for them change, and its
socket is used. How is left open here, so that it can be said of any of this that it is not
lost. A server that runs is touched by nobody until all are stopped (`Deed.Spares`).

## Main definitions

* `Registry.Lot`: What a lot for a new server can fall on.
* `Deed`: What is done with a registry, or happens around it.
* `Premises`: A registry, and the store that it shares with others.
* `Premises.Filed`: Every server is there once, and is in the store.
* `Premises.Conducts`: What a registry does when it is told to.

## Theorems

* `Premises.Filed.step`, `Premises.Filed.run`: Whatever is done, this stays so.
* `Premises.run_spares`: A server that runs is left alone.
* `Premises.creates`: Where an id is free, and the store works, a server is created.
* `Premises.conducts_over_time`: What a registry does at any time.
-/

namespace ChatHost

open Backed

/-- What a lot for a new server can fall on. -/
def Registry.Lot : Type := { id : ServerId // Registry.minServerId ≤ id }

/-- The ids that lots have fallen on. -/
def Registry.drawn (lots : List Registry.Lot) : List ServerId := lots.map (·.val)

theorem Registry.minServerId_le_drawn {lots : List Registry.Lot} {id : ServerId}
    (h : id ∈ Registry.drawn lots) : Registry.minServerId ≤ id := by
  rcases List.mem_map.mp h with ⟨lot, -, rfl⟩
  exact lot.property

/-- What is done with a registry, or happens around it. -/
inductive Deed
  | load
  | create (lots : List Registry.Lot)
  | bootstrap (lots : Nat → List Registry.Lot) (count : Nat)
  /-- All servers are started. Someone else may have some of their addresses. -/
  | startAll (isTaken : SocketAddress → Bool) (now : Instant)
  | stopAll
  /-- A server that runs goes on. -/
  | goOn (id : ServerId) (live : Live) (session : Session)
  /-- Someone else does an operation of the store. -/
  | elsewhere (request : StoreRequest)
  /-- From now on exactly these operations of the store fail. -/
  | outage (broken : List StoreMethod)

namespace Deed

/-- A deed may add servers, and has nothing to do with those that there are. -/
def Registers : Deed → Prop
  | load | create _ | bootstrap _ _ => True
  | _ => False

/-- A deed is none of a server that runs. -/
def Spares (id : ServerId) : Deed → Prop
  | stopAll => False
  | goOn other _ _ => other ≠ id
  | _ => True

end Deed

namespace Hosted

/-- A server after it has gone on, if it is the one, and runs. -/
def goneOn (h : Hosted) (id : ServerId) (live : Live) (session : Session) : Hosted :=
  if h.id = id ∧ h.isRunning = true then { h with live, session := some session } else h

theorem id_goneOn (h : Hosted) (id : ServerId) (live : Live) (session : Session) :
    (h.goneOn id live session).id = h.id := by
  rw [goneOn]
  split <;> rfl

theorem id_stop (h : Hosted) : h.stop.2.id = h.id := by
  rcases h.stop_cases with ⟨-, hstop⟩ | ⟨-, hstop⟩ <;> rw [hstop]

section Starting

variable {σ : Type} [Gateway σ] (h : Hosted) (store : σ) (isTaken : Bool) (now : Instant)

theorem id_start : (h.start store isTaken now).2.id = h.id := by
  rcases h.start_cases store isTaken now with
    ⟨-, hstart⟩ | ⟨fault, -, -, hstart⟩ | ⟨found, -, -, -, hstart⟩ | ⟨found, -, -, -, hstart⟩ <;>
    rw [hstart]
  rfl

theorem start_running (hrunning : h.isRunning = true) :
    (h.start store isTaken now).2 = h := by
  rw [start, if_pos hrunning]

/-- After a start a server runs that has run before, or whose start has succeeded. -/
theorem isRunning_start :
    (h.start store isTaken now).2.isRunning = true ↔
      h.isRunning = true ∨ (h.start store isTaken now).1 = .ok () := by
  rcases h.start_cases store isTaken now with
    ⟨-, hstart⟩ | ⟨fault, -, -, hstart⟩ | ⟨found, -, -, -, hstart⟩ | ⟨found, -, -, -, hstart⟩ <;>
    rw [hstart]
  · simp
  · simp
  · simp
  · exact ⟨fun _ => Or.inr rfl, fun _ => rfl⟩

end Starting

end Hosted

namespace Registry

theorem Ascending.of_ids {r r' : Registry} (h : r.Ascending) (hids : r'.ids = r.ids) :
    r'.Ascending := by
  rw [Ascending, hids]
  exact h

theorem ids_stopAll (r : Registry) : r.stopAll.2.ids = r.ids := by
  rw [stopAll, stopEach_eq, ids, List.map_map]
  exact List.map_congr_left fun h _ => h.id_stop

/-- After all have been stopped, no server runs. -/
theorem isRunning_stopAll (r : Registry) :
    ∀ h ∈ r.stopAll.2.servers, h.isRunning = false := by
  rw [stopAll, stopEach_eq]
  intro h hmem
  rcases List.mem_map.mp hmem with ⟨before, -, rfl⟩
  rw [Hosted.isRunning, before.session_stop]
  rfl

end Registry

/-- A registry, and the store that it shares with others. -/
structure Premises (σ : Type) where
  store : Breakable σ
  registry : Registry

namespace Premises

variable {σ : Type} [Gateway σ]

/-- A registry to which nothing has been done. -/
def fresh (store : Breakable σ) (settings : ServerSettings) : Premises σ :=
  { store, registry := { settings } }

/-- What a deed makes of a registry and its store. -/
def step (v : Premises σ) : Deed → Premises σ
  | .load => { v with registry := (v.registry.load v.store).2 }
  | .create lots =>
    let (_, store, registry) := v.registry.create v.store (Registry.drawn lots)
    { store, registry }
  | .bootstrap lots count =>
    let (_, store, registry) :=
      v.registry.bootstrap v.store (fun i => Registry.drawn (lots i)) count
    { store, registry }
  | .startAll isTaken now =>
    { v with registry := (v.registry.startAll v.store isTaken now).2 }
  | .stopAll => { v with registry := v.registry.stopAll.2 }
  | .goOn id live session =>
    { v with registry := { v.registry with
        servers := v.registry.servers.map fun h => h.goneOn id live session } }
  | .elsewhere request => { v with store := (request.run v.store).2 }
  | .outage broken => { v with store := { v.store with broken } }

/-- What becomes of a registry when one deed follows the other. -/
def run (v : Premises σ) (deeds : List Deed) : Premises σ := deeds.foldl step v

variable [Backed σ]

/-- Every server is there once, and is in the store. -/
structure Filed (v : Premises σ) : Prop where
  ascending : v.registry.Ascending
  persisted : ∀ id ∈ v.registry.ids, (backing v.store).Holds id

namespace Filed

variable {v : Premises σ}

theorem fresh (store : Breakable σ) (settings : ServerSettings) :
    Filed (Premises.fresh store settings) :=
  ⟨.nil, fun _ hid => absurd hid List.not_mem_nil⟩

theorem enrol (h : Filed v) {registry : Registry} {store : Breakable σ} {ids : List ServerId}
    (henrols : v.registry.Enrols ids registry)
    (hkept : ∀ id, (backing v.store).Holds id → (backing store).Holds id)
    (hids : ∀ id ∈ ids, (backing store).Holds id) : Filed { store, registry } where
  ascending := henrols.ascending h.ascending
  persisted id hid := by
    rcases List.mem_map.mp hid with ⟨server, hserver, rfl⟩
    rcases (henrols.mem_iff server).mp hserver with hold | ⟨id, hnew, rfl⟩
    · exact hkept _ (h.persisted _ (List.mem_map_of_mem hold))
    · exact hids id hnew

theorem of_ids (h : Filed v) {registry : Registry} (hids : registry.ids = v.registry.ids) :
    Filed { v with registry } where
  ascending := h.ascending.of_ids hids
  persisted id hid := h.persisted id (hids ▸ hid)

/-- Whatever is done, every server is there once, and is in the store. -/
theorem step (h : Filed v) (deed : Deed) : Filed (v.step deed) := by
  cases deed with
  | load =>
      rcases v.registry.load_enrols v.store with ⟨listed, hlisted, henrols⟩
      exact h.enrol henrols (fun _ hid => hid) hlisted
  | create lots =>
      rcases v.registry.create_cases v.store (Registry.drawn lots) with
        ⟨id, -, store, hcreated, hnew, hgains⟩ | ⟨fault, store, hfailed, hsame⟩
      · rw [Premises.step, hcreated]
        exact h.enrol (.add hnew) (fun other hheld => (hgains.holds other).mpr (Or.inr hheld))
          fun other hother => (hgains.holds other).mpr (Or.inl hother)
      · rw [Premises.step, hfailed]
        exact ⟨h.ascending, fun id hid => hsame ▸ h.persisted id hid⟩
  | bootstrap lots count =>
      rcases v.registry.bootstrap_enrols v.store (fun i => Registry.drawn (lots i)) count with
        ⟨listed, ids, hlisted, hgains, henrols, -, -⟩
      refine h.enrol henrols (fun id hheld => (hgains.holds id).mpr (Or.inr hheld)) ?_
      intro id hid
      rcases List.mem_append.mp hid with hid | hid
      · exact (hgains.holds id).mpr (Or.inr (hlisted id hid))
      · exact (hgains.holds id).mpr (Or.inl hid)
  | startAll isTaken now =>
      refine h.of_ids ?_
      rw [Registry.startAll, Registry.startEach_eq, Registry.ids, List.map_map]
      exact List.map_congr_left fun server _ => server.id_start v.store _ now
  | stopAll => exact h.of_ids v.registry.ids_stopAll
  | goOn id live session =>
      refine h.of_ids ?_
      rw [Registry.ids, List.map_map]
      exact List.map_congr_left fun server _ => server.id_goneOn id live session
  | elsewhere request =>
      exact ⟨h.ascending, fun id hid => run_holds v.store request (h.persisted id hid)⟩
  | outage broken => exact ⟨h.ascending, h.persisted⟩

theorem run (h : Filed v) (deeds : List Deed) : Filed (v.run deeds) := by
  induction deeds generalizing v with
  | nil => exact h
  | cons deed rest ih => exact ih (h.step deed)

end Filed

section Conduct

variable (v : Premises σ)

/-- What registers servers leaves those that there are as they are. -/
theorem step_registers (deed : Deed) (h : deed.Registers) :
    v.registry.servers.Sublist (v.step deed).registry.servers := by
  cases deed with
  | load =>
      rcases v.registry.load_enrols v.store with ⟨listed, -, henrols⟩
      exact henrols.kept
  | create lots =>
      rcases v.registry.create_cases v.store (Registry.drawn lots) with
        ⟨id, -, store, hcreated, hnew, -⟩ | ⟨fault, store, hfailed, -⟩
      · rw [step, hcreated]
        exact (Registry.Enrols.add hnew).kept
      · rw [step, hfailed]
  | bootstrap lots count =>
      rcases v.registry.bootstrap_enrols v.store (fun i => Registry.drawn (lots i)) count with
        ⟨listed, ids, -, -, henrols, -, -⟩
      exact henrols.kept
  | _ => exact h.elim

theorem step_spares {h : Hosted} (hmem : h ∈ v.registry.servers) (hrunning : h.isRunning = true)
    {deed : Deed} (hspares : deed.Spares h.id) : h ∈ (v.step deed).registry.servers := by
  cases deed with
  | load | create | bootstrap =>
      refine (v.step_registers _ ?_).subset hmem
      trivial
  | startAll isTaken now =>
      rw [step, Registry.startAll, Registry.startEach_eq]
      exact List.mem_map.mpr ⟨h, hmem, h.start_running v.store _ now hrunning⟩
  | stopAll => exact hspares.elim
  | goOn id live session =>
      exact List.mem_map.mpr ⟨h, hmem, if_neg fun hsame => hspares hsame.1.symm⟩
  | elsewhere | outage => exact hmem

/-- A server that runs is left alone until all are stopped. -/
theorem run_spares {h : Hosted} (hmem : h ∈ v.registry.servers) (hrunning : h.isRunning = true)
    (deeds : List Deed) (hspares : ∀ deed ∈ deeds, deed.Spares h.id) :
    h ∈ (v.run deeds).registry.servers := by
  induction deeds generalizing v with
  | nil => exact hmem
  | cons deed rest ih =>
      rw [List.forall_mem_cons] at hspares
      exact ih (v.step deed) (v.step_spares hmem hrunning hspares.1) hspares.2

/-- What a registry does when it is told to. -/
structure Conducts : Prop where
  filed : v.Filed
  registers : ∀ deed : Deed, deed.Registers →
    v.registry.servers.Sublist (v.step deed).registry.servers
  spares : ∀ h ∈ v.registry.servers, h.isRunning = true →
    ∀ deeds : List Deed, (∀ deed ∈ deeds, deed.Spares h.id) → h ∈ (v.run deeds).registry.servers
  created : ∀ lots id store registry,
    v.registry.create v.store (Registry.drawn lots) = (.ok id, store, registry) →
      Registry.minServerId ≤ id ∧ v.registry.contains id = false ∧
        (backing v.store).Gains [id] (backing store) ∧ v.registry.Enrols [id] registry
  creates : TakesServers σ → StoreMethod.insertServer ∉ v.store.broken →
    ∀ lots : List Registry.Lot, ∀ lot ∈ lots.take Registry.maxDraws,
      v.registry.contains lot.val = false → ¬ (backing v.store).Holds lot.val →
        ∃ id store registry,
          v.registry.create v.store (Registry.drawn lots) = (.ok id, store, registry)
  failed : ∀ lots fault store registry,
    v.registry.create v.store (Registry.drawn lots) = (.error fault, store, registry) →
      registry = v.registry ∧ backing store = backing v.store
  bootstrapped : ∀ (lots : Nat → List Registry.Lot) count boot store registry,
    v.registry.bootstrap v.store (fun i => Registry.drawn (lots i)) count =
        (.ok boot, store, registry) →
      boot.created.length = count ∧ (backing v.store).Gains boot.created (backing store) ∧
        ∀ id ∈ boot.created, Registry.minServerId ≤ id ∧ v.registry.contains id = false ∧
          registry.contains id = true
  started : ∀ isTaken now,
    let started (h : Hosted) := h.start v.store (isTaken h.address) now
    v.registry.startAll v.store isTaken now =
        (v.registry.servers.countP fun h => (started h).1.isOk,
          { v.registry with servers := v.registry.servers.map fun h => (started h).2 }) ∧
      ∀ h ∈ v.registry.servers,
        ((started h).2.isRunning = true ↔ h.isRunning = true ∨ (started h).1 = .ok ()) ∧
          ((started h).1 ≠ .ok () → (started h).2 = h)
  stopped : v.registry.stopAll.2.ids = v.registry.ids ∧
    ∀ h ∈ v.registry.stopAll.2.servers, h.isRunning = false

theorem created {lots : List Registry.Lot} {id : ServerId} {store : Breakable σ}
    {registry : Registry}
    (h : v.registry.create v.store (Registry.drawn lots) = (.ok id, store, registry)) :
    Registry.minServerId ≤ id ∧ v.registry.contains id = false ∧
      (backing v.store).Gains [id] (backing store) ∧ v.registry.Enrols [id] registry := by
  rcases v.registry.create_cases v.store (Registry.drawn lots) with
    ⟨other, hlot, store', hcreated, hnew, hgains⟩ | ⟨fault, store', hfailed, -⟩
  · rw [hcreated, Prod.mk.injEq, Prod.mk.injEq, Except.ok.injEq] at h
    rcases h with ⟨rfl, rfl, rfl⟩
    exact ⟨Registry.minServerId_le_drawn hlot, hnew, hgains, .add hnew⟩
  · rw [hfailed] at h
    exact absurd (Prod.mk.inj h).1 (by simp)

/-- A server is created where a lot falls on an id that is free, and the store works. -/
theorem creates (hstore : TakesServers σ) (hworks : StoreMethod.insertServer ∉ v.store.broken)
    {lots : List Registry.Lot} {lot : Registry.Lot} (hlot : lot ∈ lots.take Registry.maxDraws)
    (hnew : v.registry.contains lot.val = false) (hfree : ¬ (backing v.store).Holds lot.val) :
    ∃ id store registry,
      v.registry.create v.store (Registry.drawn lots) = (.ok id, store, registry) := by
  have hdrawn : lot.val ∈ (Registry.drawn lots).take Registry.maxDraws := by
    rw [Registry.drawn, ← List.map_take]
    exact List.mem_map_of_mem hlot
  rcases v.registry.draw_succeeds hstore hworks hdrawn hnew hfree with ⟨id, -, store, hcreated⟩
  exact ⟨id, store, _, hcreated⟩

theorem failed {lots : List Registry.Lot} {fault : Fault} {store : Breakable σ}
    {registry : Registry}
    (h : v.registry.create v.store (Registry.drawn lots) = (.error fault, store, registry)) :
    registry = v.registry ∧ backing store = backing v.store := by
  rcases v.registry.create_cases v.store (Registry.drawn lots) with
    ⟨other, -, store', hcreated, -, -⟩ | ⟨fault', store', hfailed, hsame⟩
  · rw [hcreated] at h
    exact absurd (Prod.mk.inj h).1 (by simp)
  · rw [hfailed, Prod.mk.injEq, Prod.mk.injEq] at h
    rcases h with ⟨-, rfl, rfl⟩
    exact ⟨rfl, hsame⟩

theorem bootstrapped {lots : Nat → List Registry.Lot} {count : Nat} {boot : Registry.Bootstrap}
    {store : Breakable σ} {registry : Registry}
    (h : v.registry.bootstrap v.store (fun i => Registry.drawn (lots i)) count =
      (.ok boot, store, registry)) :
    boot.created.length = count ∧ (backing v.store).Gains boot.created (backing store) ∧
      ∀ id ∈ boot.created, Registry.minServerId ≤ id ∧ v.registry.contains id = false ∧
        registry.contains id = true := by
  rcases v.registry.bootstrap_enrols v.store (fun i => Registry.drawn (lots i)) count with
    ⟨listed, ids, -, hgains, henrols, hlots, hresult⟩
  rw [h] at hgains henrols hresult
  rcases hresult with ⟨⟨loaded, hboot⟩, hlength⟩ | ⟨⟨fault, hfault⟩, -⟩
  · obtain rfl := Except.ok.inj hboot
    refine ⟨hlength, hgains, fun id hid => ⟨?_, ?_, ?_⟩⟩
    · rcases hlots id hid with ⟨i, hlot⟩
      exact Registry.minServerId_le_drawn hlot
    · exact henrols.new id (List.mem_append_right _ hid)
    · have hserver := (henrols.mem_iff { id, settings := v.registry.settings }).mpr
        (Or.inr ⟨id, List.mem_append_right _ hid, rfl⟩)
      exact (Registry.contains_iff _ _).mpr (List.mem_map_of_mem hserver)
  · exact absurd hfault (by simp)

omit [Backed σ] in
theorem started (isTaken : SocketAddress → Bool) (now : Instant) :
    let started (h : Hosted) := h.start v.store (isTaken h.address) now
    v.registry.startAll v.store isTaken now =
        (v.registry.servers.countP fun h => (started h).1.isOk,
          { v.registry with servers := v.registry.servers.map fun h => (started h).2 }) ∧
      ∀ h ∈ v.registry.servers,
        ((started h).2.isRunning = true ↔ h.isRunning = true ∨ (started h).1 = .ok ()) ∧
          ((started h).1 ≠ .ok () → (started h).2 = h) := by
  refine ⟨?_, fun h _ => ⟨h.isRunning_start v.store _ now, fun hfails => ?_⟩⟩
  · rw [Registry.startAll, Registry.startEach_eq]
  · rcases hresult : (h.start v.store (isTaken h.address) now).1 with error | ⟨⟩
    · exact congrArg Prod.snd (h.start_failed v.store hresult)
    · exact absurd hresult hfails

end Conduct

/-- Whatever has been done with a registry, and whatever has failed, it goes on doing what it
    is told. -/
theorem conducts_over_time (store : Breakable σ) (settings : ServerSettings)
    (history : List Deed) : Conducts ((fresh store settings).run history) where
  filed := (Filed.fresh store settings).run history
  registers := step_registers _
  spares _ hmem hrunning deeds hspares := run_spares _ hmem hrunning deeds hspares
  created _ _ _ _ := created _
  creates hstore hworks _ _ := creates _ hstore hworks
  failed _ _ _ _ := failed _
  bootstrapped _ _ _ _ _ := bootstrapped _
  started := started _
  stopped := ⟨Registry.ids_stopAll _, Registry.isRunning_stopAll _⟩

/-- A store works, and another program has added a server to it since the registry has got its
    first one. The next lots fall on either of them, and the third is taken. Both servers of
    the registry start, and are counted. -/
theorem conducts_two_servers :
    let store : Breakable Backing := ⟨.memory .empty, []⟩
    let settings : ServerSettings := ⟨.v4 ⟨127, 0, 0, 1⟩, ⟨200, 60000, 5000⟩⟩
    let v := (fresh store settings).run
      [.create [⟨7001, by decide⟩], .elsewhere (.insertServer 7002),
       .create [⟨7001, by decide⟩, ⟨7002, by decide⟩, ⟨7003, by decide⟩]]
    let (count, started) := v.registry.startAll v.store (fun _ => false) 0
    v.Conducts ∧ TakesServers Backing ∧ StoreMethod.insertServer ∉ v.store.broken ∧
      v.registry.ids = [7001, 7003] ∧ count = 2 ∧
      started.servers.map (·.isRunning) = [true, true] := by
  exact ⟨conducts_over_time _ _ _, takesServers_backing, by decide, by decide, by decide,
    by decide⟩

end Premises

end ChatHost
