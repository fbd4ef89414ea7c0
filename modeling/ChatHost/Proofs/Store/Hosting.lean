import ChatHost.Proofs.Store.Integrity
import ChatHost.Proofs.Store.Working

/-!
# Hosted Servers in a Store

Which servers a store holds, and how it gets more of them.

Servers are only ever added. The store refuses one that it holds, and takes in any other
without a change to its users, channels and messages (`Backing.Gains`).

A store may also fail for reasons of its own, at any operation, in the middle of whatever its
caller is about. All that is asked of such a store is that an operation which it does not fail
is done in what it holds, and that one which it fails leaves that alone (`Backed`).

## Main definitions

* `Backing.Holds`, `Backing.others`: The servers that a store holds, and everything else.
* `Backing.Gains`: A store has got some servers, and is otherwise as it was.
* `Backed`: A store that may fail at any operation.
* `Backed.TakesServers`: One that does not fail to take in servers.

## Theorems

* `Backing.insertServer_cases`: What becomes of a server that is added.
* `Backing.run_holds`: No operation takes a server away.
* `Backed.insertServer_cases`, `Backed.holds_of_listed`, `Backed.run_holds`: The same for stores
  that may fail.
-/

namespace ChatHost

namespace TableStore

theorem mem_insertAscending (row other : Int) (rows : List Int) :
    other ∈ insertAscending row rows ↔ other = row ∨ other ∈ rows := by
  induction rows with
  | nil => rw [insertAscending, List.mem_singleton, List.mem_nil_iff, or_false]
  | cons first rest ih =>
      rw [insertAscending]
      split
      · rw [List.mem_cons]
      · rw [List.mem_cons, List.mem_cons, ih]
        exact or_left_comm

-- Only one operation has to do with servers.
theorem servers_run (s : TableStore) {call : StoreRequest}
    (hcall : ∀ server, call ≠ .insertServer server) : (call.run s).2.servers = s.servers := by
  cases call with
  | insertServer server => exact absurd rfl (hcall server)
  | insertUser server ip username =>
      rcases insertUser_inserts s server ip username with ⟨users, -, hs⟩
      have hkept := congrArg TableStore.servers hs
      exact hkept
  | insertChannel name server =>
      rcases insertChannel_inserts s name server with ⟨channels, -, hs⟩
      have hkept := congrArg TableStore.servers hs
      exact hkept
  | insertMessage text channel sender =>
      rcases insertMessage_inserts s text channel sender with ⟨messages, -, hs⟩
      have hkept := congrArg TableStore.servers hs
      exact hkept
  | _ => rfl

end TableStore

namespace MemoryStore

theorem Outcome.servers_eq {s s' : MemoryStore} {call : StoreRequest}
    {result : Except Fault StoreAnswer} (h : Outcome s call result s')
    (hcall : ∀ server, call ≠ .insertServer server) : s'.servers = s.servers := by
  cases h with
  | server => exact absurd rfl (hcall _)
  | _ => rfl

theorem servers_run (s : MemoryStore) {call : StoreRequest}
    (hcall : ∀ server, call ≠ .insertServer server) : (call.run s).2.servers = s.servers := by
  cases call with
  | insertServer server => exact absurd rfl (hcall server)
  | insertUser server ip username =>
      exact (insertUser_outcome s server ip username).servers_eq hcall
  | insertChannel name server => exact (insertChannel_outcome s name server).servers_eq hcall
  | insertMessage text channel sender =>
      exact (insertMessage_outcome s text channel sender).servers_eq hcall
  | _ => rfl

end MemoryStore

namespace Backing

/-- A server is one of the store. -/
def Holds (b : Backing) (server : ServerId) : Prop :=
  b.query (fun s => server ∈ s.servers) fun s => (server.toNat : Int) ∈ s.servers

/-- What a store holds beside its servers. -/
def others : Backing → Backing
  | memory s => memory { s with servers := [] }
  | tables s => tables { s with servers := [] }

/-- A store has got servers that it did not hold, and is otherwise as it was. -/
structure Gains (b : Backing) (ids : List ServerId) (b' : Backing) : Prop where
  nodup : ids.Nodup
  new : ∀ server ∈ ids, ¬ b.Holds server
  holds : ∀ server, b'.Holds server ↔ server ∈ ids ∨ b.Holds server
  others : b'.others = b.others
  unchanged : ids = [] → b' = b

namespace Gains

variable {b b' b'' : Backing} {ids ids' : List ServerId}

theorem refl (b : Backing) : Gains b [] b where
  nodup := .nil
  new _ h := absurd h List.not_mem_nil
  holds _ := by rw [List.mem_nil_iff, false_or]
  others := rfl
  unchanged _ := rfl

theorem trans (h : Gains b ids b') (h' : Gains b' ids' b'') : Gains b (ids ++ ids') b'' where
  nodup := by
    refine List.nodup_append.mpr ⟨h.nodup, h'.nodup, ?_⟩
    rintro server hserver other hother rfl
    exact h'.new server hother ((h.holds server).mpr (Or.inl hserver))
  new server hserver hheld := by
    rcases List.mem_append.mp hserver with hserver | hserver
    · exact h.new server hserver hheld
    · exact h'.new server hserver ((h.holds server).mpr (Or.inr hheld))
  holds server := by
    rw [h'.holds, h.holds, List.mem_append, ← or_assoc]
    exact or_congr_left or_comm
  others := h'.others.trans h.others
  unchanged hnone := by
    rcases List.append_eq_nil_iff.mp hnone with ⟨hids, hids'⟩
    rw [h'.unchanged hids', h.unchanged hids]

theorem of_eq (h : b' = b) : Gains b [] b' := h ▸ refl b

-- One server is new, and it is all that is.
theorem single {server : ServerId} (hnew : ¬ b.Holds server)
    (hholds : ∀ other, b'.Holds other ↔ other = server ∨ b.Holds other)
    (hothers : b'.others = b.others) : Gains b [server] b' where
  nodup := List.nodup_singleton server
  new other hother := List.mem_singleton.mp hother ▸ hnew
  holds other := by rw [hholds, List.mem_singleton]
  others := hothers
  unchanged hnone := absurd hnone (List.cons_ne_nil _ _)

end Gains

/-- A server that the store holds is refused, and any other is taken in. -/
theorem insertServer_cases (b : Backing) (server : ServerId) :
    (b.Holds server ∧ Gateway.insertServer b server = (.error (.serverExists server), b)) ∨
      ∃ b', Gateway.insertServer b server = (.ok server, b') ∧ Gains b [server] b' := by
  cases b with
  | memory s =>
      by_cases hheld : server ∈ s.servers
      · have hrefused : s.insertServer server = (.error (.serverExists server), s) :=
          if_pos hheld
        exact Or.inl ⟨hheld, congrArg (Prod.map id memory) hrefused⟩
      · have hadded : s.insertServer server =
            (.ok server, { s with servers := MemoryStore.insertAscending server s.servers }) :=
          if_neg hheld
        refine Or.inr ⟨_, congrArg (Prod.map id memory) hadded, .single hheld ?_ rfl⟩
        intro other
        exact (MemoryStore.insertAscending_perm server s.servers).mem_iff.trans List.mem_cons
  | tables s =>
      by_cases hheld : (server.toNat : Int) ∈ s.servers
      · have hrefused : s.insertServer server = (.error (.serverExists server), s) := by
          rw [TableStore.insertServer, TableStore.addServer, if_pos hheld]
        exact Or.inl ⟨hheld, congrArg (Prod.map id tables) hrefused⟩
      · have hadded : s.insertServer server = (.ok server,
            { s with servers := TableStore.insertAscending server.toNat s.servers }) := by
          rw [TableStore.insertServer, TableStore.addServer, if_neg hheld]
        refine Or.inr ⟨_, congrArg (Prod.map id tables) hadded, .single hheld ?_ rfl⟩
        intro other
        refine (TableStore.mem_insertAscending _ _ _).trans (or_congr_left ?_)
        exact ⟨fun hsame => TableStore.column16_injective hsame, fun hsame => hsame ▸ rfl⟩

/-- The servers that a store lists are those that it holds. -/
theorem holds_of_registered {b : Backing} {server : ServerId} (h : Registered server b) :
    b.Holds server := by
  cases b with
  | memory s => exact MemoryStore.mem_of_registered h
  | tables s => exact TableStore.mem_of_registered h

/-- No operation takes a server away. -/
theorem run_holds (b : Backing) (call : StoreRequest) {server : ServerId}
    (h : b.Holds server) : (call.run b).2.Holds server := by
  by_cases hcall : ∃ added, call = .insertServer added
  · rcases hcall with ⟨added, rfl⟩
    rw [StoreRequest.run, answered]
    rcases insertServer_cases b added with ⟨-, hrefused⟩ | ⟨b', hadded, hgains⟩
    · rw [hrefused]
      exact h
    · rw [hadded]
      exact (hgains.holds server).mpr (Or.inr h)
  · have hother : ∀ added, call ≠ .insertServer added := fun added hsame => hcall ⟨added, hsame⟩
    cases b with
    | memory s =>
        rw [run_memory, Holds, query, MemoryStore.servers_run s hother]
        exact h
    | tables s =>
        rw [run_tables, Holds, query, TableStore.servers_run s hother]
        exact h

end Backing

/-- A store that shows what it holds. An operation is done there, or fails and leaves what is
    there alone. -/
class Backed (σ : Type) [Gateway σ] where
  /-- What a store holds. -/
  backing : σ → Backing
  run_cases (s : σ) (call : StoreRequest) :
    (∃ fault, (call.run s).1 = .error fault) ∧ backing (call.run s).2 = backing s ∨
      (call.run s).1 = (call.run (backing s)).1 ∧
        backing (call.run s).2 = (call.run (backing s)).2

instance : Backed Backing where
  backing b := b
  run_cases _ _ := Or.inr ⟨rfl, rfl⟩

namespace Breakable

variable {σ : Type}

theorem query_cases {α : Type} (b : Breakable σ) (method : StoreMethod)
    (ask : σ → Except Fault α) :
    b.query method ask = .error method.broken ∨ b.query method ask = ask b.store := by
  by_cases hbroken : method ∈ b.broken
  · exact Or.inl (if_pos hbroken)
  · exact Or.inr (if_neg hbroken)

theorem change_cases {α : Type} (b : Breakable σ) (method : StoreMethod)
    (act : σ → Except Fault α × σ) :
    b.change method act = (.error method.broken, b) ∨
      b.change method act = ((act b.store).1, { b with store := (act b.store).2 }) := by
  by_cases hbroken : method ∈ b.broken
  · exact Or.inl (if_pos hbroken)
  · exact Or.inr (if_neg hbroken)

variable [Gateway σ]

-- An operation that is broken does nothing, and any other is done in the store behind.
theorem run_cases (b : Breakable σ) (call : StoreRequest) :
    (∃ fault, call.run b = (.error fault, b)) ∨
      call.run b = ((call.run b.store).1, { b with store := (call.run b.store).2 }) := by
  have hquery : ∀ {α : Type} (method : StoreMethod) (ask : σ → Except Fault α)
      (wrap : α → StoreAnswer),
      (∃ fault, ((b.query method ask).map wrap, b) = (.error fault, b)) ∨
        ((b.query method ask).map wrap, b) = ((ask b.store).map wrap, b) := by
    intro α method ask wrap
    rcases b.query_cases method ask with hbroken | hasked
    · exact Or.inl ⟨_, by rw [hbroken]; rfl⟩
    · exact Or.inr (by rw [hasked])
  have hchange : ∀ {α : Type} (method : StoreMethod) (act : σ → Except Fault α × σ)
      (wrap : α → StoreAnswer),
      (∃ fault, answered wrap (b.change method act) = (.error fault, b)) ∨
        answered wrap (b.change method act) =
          ((answered wrap (act b.store)).1, { b with store := (answered wrap (act b.store)).2 }) := by
    intro α method act wrap
    rcases b.change_cases method act with hbroken | hdone
    · exact Or.inl ⟨_, by rw [hbroken]; rfl⟩
    · exact Or.inr (by rw [hdone]; rfl)
  cases call with
  | selectServers id => exact hquery .selectServers (Gateway.selectServers · id) .servers
  | selectUsers filter => exact hquery .selectUsers (Gateway.selectUsers · filter) .users
  | selectChannels filter =>
      exact hquery .selectChannels (Gateway.selectChannels · filter) .channels
  | selectMessages filter =>
      exact hquery .selectMessages (Gateway.selectMessages · filter) .messages
  | insertServer id => exact hchange .insertServer (Gateway.insertServer · id) .server
  | insertUser server ip username =>
      exact hchange .insertUser (Gateway.insertUser · server ip username) .user
  | insertChannel name server =>
      exact hchange .insertChannel (Gateway.insertChannel · name server) .channel
  | insertMessage text channel sender =>
      exact hchange .insertMessage (Gateway.insertMessage · text channel sender) .receipt
  | updateRole server username role =>
      exact hchange .updateRole (Gateway.updateRole · server username role) .updated

end Breakable

instance {σ : Type} [Gateway σ] [Backed σ] : Backed (Breakable σ) where
  backing b := Backed.backing b.store
  run_cases b call := by
    rcases b.run_cases call with ⟨fault, hrun⟩ | hrun
    · rw [hrun]
      exact Or.inl ⟨⟨fault, rfl⟩, rfl⟩
    · rw [hrun]
      exact Backed.run_cases b.store call

namespace Backed

variable {σ : Type} [Gateway σ] [Backed σ]

/-- A server is taken in, or nothing changes. -/
theorem insertServer_cases (s : σ) (server : ServerId) :
    (∃ s', Gateway.insertServer s server = (.ok server, s') ∧
      (backing s).Gains [server] (backing s')) ∨
    ∃ fault s', Gateway.insertServer s server = (.error fault, s') ∧ backing s' = backing s := by
  rcases hresult : Gateway.insertServer s server with ⟨fault | added, s'⟩
  all_goals
    have hrun := run_cases s (.insertServer server)
    simp only [StoreRequest.run, answered, hresult] at hrun
  · refine Or.inr ⟨fault, s', rfl, ?_⟩
    rcases hrun with ⟨-, hsame⟩ | ⟨hfault, hsame⟩
    · exact hsame
    · rcases (backing s).insertServer_cases server with ⟨-, hrefused⟩ | ⟨b', hadded, -⟩
      · rw [hsame, hrefused]
      · rw [hadded] at hfault
        exact absurd hfault (by simp [Except.map])
  · rcases hrun with ⟨⟨fault, hfault⟩, -⟩ | ⟨hadded, hsame⟩
    · exact absurd hfault (by simp [Except.map])
    · rcases (backing s).insertServer_cases server with ⟨-, hrefused⟩ | ⟨b', hinsert, hgains⟩
      · rw [hrefused] at hadded
        exact absurd hadded (by simp [Except.map])
      · rw [hinsert] at hadded hsame
        have hid : added = server := StoreAnswer.server.inj (Except.ok.inj hadded)
        exact Or.inl ⟨s', by rw [hid], hsame ▸ hgains⟩

variable (σ) in
/-- Stores of a kind that never fail to take in a server: each is refused or taken in as what
    the store holds has it. -/
def TakesServers : Prop :=
  ∀ (s : σ) (server : ServerId),
    let call := StoreRequest.insertServer server
    (call.run s).1 = (call.run (backing s)).1 ∧
      backing (call.run s).2 = (call.run (backing s)).2

theorem takesServers_backing : TakesServers Backing := fun _ _ => ⟨rfl, rfl⟩

/-- A store that works refuses no server but those that it holds. -/
theorem TakesServers.insertServer_cases (h : TakesServers σ) {b : Breakable σ}
    (hworks : StoreMethod.insertServer ∉ b.broken) (server : ServerId) :
    (backing b).Holds server ∧
        (∃ b', Gateway.insertServer b server = (.error (.serverExists server), b') ∧
          backing b' = backing b ∧ b'.broken = b.broken) ∨
      ∃ b', Gateway.insertServer b server = (.ok server, b') := by
  have hdone : Gateway.insertServer b server =
      ((Gateway.insertServer b.store server).1,
        { b with store := (Gateway.insertServer b.store server).2 }) := if_neg hworks
  rcases h b.store server with ⟨hanswer, hstore⟩
  simp only [StoreRequest.run, answered] at hanswer hstore
  rcases (backing b.store).insertServer_cases server with ⟨hheld, hrefused⟩ | ⟨b', hadded, -⟩
  · rw [hrefused] at hanswer hstore
    rcases hresult : (Gateway.insertServer b.store server).1 with fault | added
    · rw [hresult] at hanswer hdone
      obtain rfl := Except.error.inj hanswer
      exact Or.inl ⟨hheld, _, hdone, hstore, rfl⟩
    · rw [hresult] at hanswer
      exact absurd hanswer (by simp [Except.map])
  · rw [hadded] at hanswer
    rcases hresult : (Gateway.insertServer b.store server).1 with fault | added
    · rw [hresult] at hanswer
      exact absurd hanswer (by simp [Except.map])
    · rw [hresult] at hanswer hdone
      obtain rfl := StoreAnswer.server.inj (Except.ok.inj hanswer)
      exact Or.inr ⟨_, hdone⟩

/-- The servers that a store lists are those that it holds. -/
theorem holds_of_listed {s : σ} {ids : List ServerId}
    (h : Gateway.selectServers s none = .ok ids) :
    ∀ server ∈ ids, (backing s).Holds server := by
  intro server hserver
  have hrun := run_cases s (.selectServers none)
  simp only [StoreRequest.run, h] at hrun
  rcases hrun with ⟨⟨fault, hfault⟩, -⟩ | ⟨hlisted, -⟩
  · exact absurd hfault (by simp [Except.map])
  · rcases hids : Gateway.selectServers (backing s) none with fault | ids'
    · rw [hids] at hlisted
      exact absurd hlisted (by simp [Except.map])
    · rw [hids] at hlisted
      have hsame : ids = ids' := StoreAnswer.servers.inj (Except.ok.inj hlisted)
      exact (backing s).holds_of_registered ⟨ids', hids, hsame ▸ hserver⟩

/-- No operation takes a server away. -/
theorem run_holds (s : σ) (call : StoreRequest) {server : ServerId}
    (h : (backing s).Holds server) : (backing (call.run s).2).Holds server := by
  rcases run_cases s call with ⟨-, hsame⟩ | ⟨-, hrun⟩
  · rw [hsame]
    exact h
  · rw [hrun]
    exact (backing s).run_holds call h

end Backed

end ChatHost
