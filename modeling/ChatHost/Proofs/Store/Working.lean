import ChatHost.Proofs.Store.BackingLaws
import ChatHost.Proofs.Store.Interchange

/-!
# Stores That Work

When the operations of a store succeed.

The laws of a store say what an operation has done if it has succeeded, and promise no
success. Nor could they: a store may be broken, its tables may hold rows that are no
records, and it may have given out its last id. If nothing of this is so, little is left
that could go wrong. Every query is answered. A channel can be added to any registered
server, and so can a user, unless the server has a user of the same IP address. That is
all that a server needs to know to tell what it will answer (`Works`).

Both kinds of store come to this in their own way. The store in memory makes its checks
one after the other, and each is about one of the conditions. The tables make none, but
their schema compares the new row with all others, and what it finds in a row is only
known to be in a record because every row is one.

That every row is a record is no rare luck. It is so in whatever a host has written while
there were ids (`Backing.Filled.responsive`).

## Main definitions

* `Responsive`: Every query is answered.
* `Registered`: A server is one of the store.
* `Works`: A store does what a server asks of it.
* `Backing.IdsLeft`: The next user and the next channel can have an id.
* `Ready`: A store that works, for a server that is registered, with ids left.

## Theorems

* `Backing.works`, `Ready.works`: Such a store does what the server asks of it.
* `Mirrors.of_filled`: Tables that have been filled hold what a store in memory could.
* `Backing.Filled.responsive`: Stores that have been filled answer every query.
-/

namespace ChatHost

open LawfulGateway

section Working

variable {σ : Type} [Gateway σ]

/-- Every query is answered. -/
def Responsive (s : σ) : Prop :=
  ∀ query : StoreRequest, query.isQuery = true → ∃ answer, (query.run s).1 = .ok answer

/-- A server is one of the store. -/
def Registered (server : ServerId) (s : σ) : Prop :=
  ∃ ids, Gateway.selectServers s none = .ok ids ∧ server ∈ ids

/-- A store does what a server asks of it: it answers, and takes in every channel, and
    every user whose IP address is new to the server. -/
structure Works [LawfulGateway σ] (server : ServerId) (s : σ) : Prop where
  responsive : Responsive s
  insertUser : ∀ (ip : Ip) (username : Name),
    (∀ user ∈ (records s).users, user.server = server → user.ip ≠ ip) →
      ∃ record s', Gateway.insertUser s server ip username = (.ok record, s')
  insertChannel : ∀ name : Name,
    ∃ channel s', Gateway.insertChannel s name server = (.ok channel, s')

namespace Responsive

variable [LawfulGateway σ] {s : σ}

theorem selectUsers (h : Responsive s) (hs : Orderly s) (filter : UserFilter) :
    Gateway.selectUsers s filter = .ok ((records s).users.filter filter.admits) := by
  rcases Row.exists_map_ok.mp (h (.selectUsers filter) rfl) with ⟨found, hfound⟩
  rw [hfound, selectUsers_ok hs hfound]

theorem selectChannels (h : Responsive s) (hs : Orderly s) (filter : ChannelFilter) :
    Gateway.selectChannels s filter = .ok ((records s).channels.filter filter.admits) := by
  rcases Row.exists_map_ok.mp (h (.selectChannels filter) rfl) with ⟨found, hfound⟩
  rw [hfound, selectChannels_ok hs hfound]

theorem selectMessages (h : Responsive s) (hs : Orderly s) (filter : MessageFilter) :
    Gateway.selectMessages s filter = .ok ((records s).messages.filter filter.admits) := by
  rcases Row.exists_map_ok.mp (h (.selectMessages filter) rfl) with ⟨found, hfound⟩
  rw [hfound, selectMessages_ok hs hfound]

end Responsive

end Working

namespace MemoryStore

variable {s : MemoryStore} {server : ServerId}

-- A store in memory finds whatever it is asked for.
theorem responsive (s : MemoryStore) : Responsive s := by
  intro query hquery
  cases query with
  | selectServers id => exact ⟨_, rfl⟩
  | selectUsers filter => exact ⟨_, rfl⟩
  | selectChannels filter => exact ⟨_, rfl⟩
  | selectMessages filter => exact ⟨_, rfl⟩
  | _ => simp [StoreRequest.isQuery] at hquery

theorem nextId_of_isId {last : UInt32} (h : Row.IsId (last.toNat + 1)) :
    nextId last = .ok (last + 1) := by
  have hsize : UInt32.size = 4294967296 := rfl
  have hle := h.2
  rw [nextId, if_pos (by omega)]

theorem mem_of_registered (h : Registered server s) : server ∈ s.servers := by
  rcases h with ⟨ids, hids, hserver⟩
  rw [← Except.ok.inj hids] at hserver
  exact (List.mem_filter.mp hserver).1

theorem works (hserver : Registered server s) (husers : Row.IsId (s.lastUser.toNat + 1))
    (hchannels : Row.IsId (s.lastChannel.toNat + 1)) : Works server s where
  responsive := s.responsive
  insertUser ip username hfree := by
    have hjoined : ¬ s.hasJoined server ip = true := by
      rw [hasJoined, List.any_eq_true]
      rintro ⟨user, huser, hsame⟩
      rw [Bool.and_eq_true, decide_eq_true_eq, decide_eq_true_eq] at hsame
      exact hfree user huser hsame.1 hsame.2
    have hinsert : ∃ s', s.insertUser server ip username =
        (.ok { id := s.lastUser + 1, server, username, ip }, s') := by
      rw [insertUser, if_neg (not_not_intro (mem_of_registered hserver)), if_neg hjoined,
        nextId_of_isId husers]
      exact ⟨_, rfl⟩
    exact ⟨_, hinsert⟩
  insertChannel name := by
    have hinsert : ∃ s', s.insertChannel name server =
        (.ok { id := s.lastChannel + 1, name, server }, s') := by
      rw [insertChannel, if_neg (not_not_intro (mem_of_registered hserver)),
        nextId_of_isId hchannels]
      exact ⟨_, rfl⟩
    exact ⟨_, hinsert⟩

end MemoryStore

-- While there is an id for the next row, the table draws it and a record can have it.
theorem Table.nextId_of_isId {ρ : Type} {t : Table ρ} (h : Row.IsId (t.last + 1))
    (column : String) :
    t.nextId = .ok (t.last + 1) ∧ ∃ id, Row.narrow32 column (t.last + 1) = .ok id := by
  have hmax : t.last < Row.maxInteger := by
    have hle := h.2
    rw [Row.maxInteger]
    omega
  refine ⟨by rw [nextId, if_pos hmax], ?_⟩
  have hok := (Row.narrow32_isOk column (t.last + 1)).mpr h
  rcases hnarrow : Row.narrow32 column (t.last + 1) with fault | id
  · rw [hnarrow] at hok
    exact absurd hok Bool.false_ne_true
  · exact ⟨id, rfl⟩

-- The next id is in no row.
theorem Row.Format.Kept.key_ne_next {ρ α : Type} {F : Format ρ α} {t : Table ρ} (h : F.Kept t) :
    ∀ row ∈ t.rows, F.key row ≠ t.last + 1 := by
  intro row hrow hsame
  have hle := h.ascends.le_last row hrow
  omega

namespace TableStore

variable {s : TableStore} {server : ServerId}

theorem mem_of_registered (h : Registered server s) : (server.toNat : Int) ∈ s.servers := by
  rcases h with ⟨ids, hids, hserver⟩
  have hfound := Table.mapM_record Row.server _ ids hids
  rw [hfound] at hserver
  rcases List.mem_filterMap.mp hserver with ⟨row, hrow, hread⟩
  rcases hnarrow : Row.server row with fault | id
  · rw [hnarrow] at hread
    exact absurd hread (by simp [Except.toOption])
  · rw [hnarrow] at hread
    rw [← Option.some.inj hread, Row.toNat_of_narrow16 hnarrow]
    exact (List.mem_filter.mp hrow).1

theorem works (h : Orderly s) (hresponsive : Responsive s) (hserver : Registered server s)
    (husers : Row.IsId (s.users.last + 1)) (hchannels : Row.IsId (s.channels.last + 1)) :
    Works server s where
  responsive := hresponsive
  insertUser ip username hfree := by
    rcases Table.nextId_of_isId husers "hosted_server_users.id" with ⟨hnext, id, hid⟩
    have hkey : (s.users.has fun other =>
        decide (other.id = s.users.last + 1) ||
          decide (other.server = (server.toNat : Int) ∧ other.ip = ip.toText)) = false := by
      rw [Table.has, List.any_eq_false]
      intro row hrow
      rw [Bool.or_eq_true, decide_eq_true_eq, decide_eq_true_eq]
      rintro (hsame | ⟨hsame, hip⟩)
      · exact h.users.key_ne_next row hrow hsame
      · -- What stands in the row is a user, and theirs is the address.
        rcases (s.readable_iff.mpr hresponsive).users row hrow with ⟨user, huser⟩
        have hrecord : userFormat.record? row = some user := by
          rw [Row.Format.record?]
          exact congrArg Except.toOption huser
        have hwritten := (userFormat.eq_ofRecord (h.users.written row hrow) hrecord).1
        rw [hwritten] at hsame hip
        refine hfree user (List.mem_filterMap.mpr ⟨row, hrow, hrecord⟩) ?_ ?_
        · exact column16_injective hsame
        · exact Ip.toText_injective hip
    have hinsert : ∃ s', s.insertUser server ip username =
        (.ok { id, server, username, ip }, s') := by
      simp only [insertUser, hnext, addUser, hkey, Bool.false_eq_true, if_false,
        if_neg (not_not_intro (mem_of_registered hserver)), hid, Except.map]
      exact ⟨_, rfl⟩
    exact ⟨_, hinsert⟩
  insertChannel name := by
    rcases Table.nextId_of_isId hchannels "server_chat_channels.id" with ⟨hnext, id, hid⟩
    have hkey : (s.channels.has fun other => decide (other.id = s.channels.last + 1)) = false := by
      rw [Table.has, List.any_eq_false]
      intro row hrow
      rw [decide_eq_true_eq]
      exact h.channels.key_ne_next row hrow
    have hinsert : ∃ s', s.insertChannel name server = (.ok { id, name, server }, s') := by
      simp only [insertChannel, hnext, addChannel, hkey, Bool.false_eq_true, if_false,
        if_neg (not_not_intro (mem_of_registered hserver)), hid, Except.map]
      exact ⟨_, rfl⟩
    exact ⟨_, hinsert⟩

end TableStore

namespace Backing

-- An operation is done in the store that there is.
theorem run_memory (s : MemoryStore) (call : StoreRequest) :
    call.run (memory s) = ((call.run s).1, memory (call.run s).2) := by
  cases call <;> rfl

theorem run_tables (s : TableStore) (call : StoreRequest) :
    call.run (tables s) = ((call.run s).1, tables (call.run s).2) := by
  cases call <;> rfl

/-- The last id of a user that was given out, and the last of a channel. -/
def lastUser (b : Backing) : Int := b.query (fun s => s.lastUser.toNat) fun s => s.users.last

def lastChannel (b : Backing) : Int :=
  b.query (fun s => s.lastChannel.toNat) fun s => s.channels.last

/-- The next user and the next channel can have an id. -/
structure IdsLeft (b : Backing) : Prop where
  users : Row.IsId (b.lastUser + 1)
  channels : Row.IsId (b.lastChannel + 1)

/-- A store of either kind does what a registered server asks of it, if it answers
    queries and has ids left. -/
theorem works {b : Backing} {server : ServerId} (h : LawfulGateway.Orderly b)
    (hresponsive : Responsive b) (hserver : Registered server b) (hids : b.IdsLeft) :
    Works server b := by
  cases b with
  | memory s =>
      have hworks := MemoryStore.works (s := s) hserver hids.users hids.channels
      refine ⟨hresponsive, fun ip username hfree => ?_, fun name => ?_⟩
      · rcases hworks.insertUser ip username hfree with ⟨record, s', hinsert⟩
        exact ⟨record, memory s', congrArg (Prod.map id memory) hinsert⟩
      · rcases hworks.insertChannel name with ⟨channel, s', hinsert⟩
        exact ⟨channel, memory s', congrArg (Prod.map id memory) hinsert⟩
  | tables s =>
      have hanswers : Responsive s := fun query hquery => by
        have hanswer := hresponsive query hquery
        rwa [run_tables] at hanswer
      have hworks := TableStore.works (s := s) h hanswers hserver hids.users hids.channels
      refine ⟨hresponsive, fun ip username hfree => ?_, fun name => ?_⟩
      · rcases hworks.insertUser ip username hfree with ⟨record, s', hinsert⟩
        exact ⟨record, tables s', congrArg (Prod.map id tables) hinsert⟩
      · rcases hworks.insertChannel name with ⟨channel, s', hinsert⟩
        exact ⟨channel, tables s', congrArg (Prod.map id tables) hinsert⟩

end Backing

/-- A store that works, for a server that is registered, with ids left. -/
structure Ready (server : ServerId) (b : Breakable Backing) : Prop where
  whole : b.broken = []
  responsive : Responsive b.store
  registered : Registered server b.store
  idsLeft : b.store.IdsLeft

namespace Breakable

variable {σ : Type} {b : Breakable σ}

-- Where nothing is broken, every operation reaches the store.
theorem query_whole (h : b.broken = []) {α : Type} (method : StoreMethod)
    (ask : σ → Except Fault α) : b.query method ask = ask b.store := by
  rw [query, h]
  exact if_neg List.not_mem_nil

theorem change_whole (h : b.broken = []) {α : Type} (method : StoreMethod)
    {act : σ → Except Fault α × σ} {result : Except Fault α} {store : σ}
    (hact : act b.store = (result, store)) :
    b.change method act = (result, { b with store := store }) := by
  rw [change, h, if_neg List.not_mem_nil, hact]

theorem works [Gateway σ] [LawfulGateway σ] {server : ServerId} (hwhole : b.broken = [])
    (h : Works server b.store) : Works server b where
  responsive query hquery := by
    rcases h.responsive query hquery with ⟨answer, hanswer⟩
    refine ⟨answer, Eq.trans ?_ hanswer⟩
    cases query with
    | selectServers id => exact congrArg (Except.map StoreAnswer.servers) (query_whole hwhole _ _)
    | selectUsers filter => exact congrArg (Except.map StoreAnswer.users) (query_whole hwhole _ _)
    | selectChannels filter => exact congrArg (Except.map StoreAnswer.channels) (query_whole hwhole _ _)
    | selectMessages filter => exact congrArg (Except.map StoreAnswer.messages) (query_whole hwhole _ _)
    | _ => simp [StoreRequest.isQuery] at hquery
  insertUser ip username hfree := by
    rcases h.insertUser ip username hfree with ⟨record, store, hinsert⟩
    exact ⟨record, _, change_whole hwhole .insertUser hinsert⟩
  insertChannel name := by
    rcases h.insertChannel name with ⟨channel, store, hinsert⟩
    exact ⟨channel, _, change_whole hwhole .insertChannel hinsert⟩

end Breakable

theorem Ready.works {server : ServerId} {b : Breakable Backing} (h : Ready server b)
    (hs : Orderly b) : Works server b :=
  Breakable.works h.whole (Backing.works hs h.responsive h.registered h.idsLeft)

/-- Tables that have been filled hold what a store in memory could, while there are ids. -/
theorem Mirrors.of_filled {b : Backing} (h : b.Filled) {t : TableStore} (hb : b = .tables t)
    (hroom : t.Roomy) : ∃ m, Mirrors m t := by
  induction h generalizing t with
  | memory => exact absurd hb (by simp)
  | tables =>
      rw [← Backing.tables.inj hb]
      exact ⟨.empty, .empty⟩
  | @run before call _ ih =>
      cases before with
      | memory s =>
          rw [Backing.run_memory] at hb
          exact absurd hb (by simp)
      | tables s =>
          rw [Backing.run_tables] at hb
          obtain rfl := Backing.tables.inj hb
          have hbefore := TableStore.roomy_of_run hroom
          rcases ih rfl hbefore with ⟨m, hm⟩
          exact ⟨_, (hm.run hbefore call).2⟩

/-- Stores that have been filled answer every query, while there are ids. -/
theorem Backing.Filled.responsive {b : Backing} (h : b.Filled)
    (hroom : b.query (fun _ => True) TableStore.Roomy) : Responsive b := by
  intro query hquery
  cases b with
  | memory s =>
      rw [run_memory]
      exact s.responsive query hquery
  | tables t =>
      rcases Mirrors.of_filled h rfl hroom with ⟨m, hm⟩
      rw [run_tables, ← (hm.run hroom query).1]
      exact m.responsive query hquery

end ChatHost
