import ChatHost.Proofs.Store.TableLaws

/-!
# What an Insertion Leaves Behind

An insertion that fails should leave the tables as they were, and no insertion
should leave a row behind that makes queries fail.

The database gives out the id, and it is looked at only when the row is in its
table. As long as the next id is one that a record can have, this makes no
difference: a statement that is refused adds nothing, and one that is accepted
adds the row of a record. When no such id is left, the row is added all the same,
the caller is told that the insertion failed, and from then on every query that
meets the row fails with it (`exhausted_insertion_stays`). Where the line runs is
said once for all tables, by `Row.Format.Inserts.cases`.

Nothing is assumed about where the rows of a table come from. They need not be
such as operations write: an address may be spelled in any way that can be read.

## Main definitions

* `Row.IsId`: A number that a record can have as its id.
* `Row.Format.Readable`: Every row of a table is a record.
* `Row.Format.Inserts`: What an insertion makes of its table.
* `TableStore.Readable`: Every row of every table is a record.
* `TableStore.nextId?`: The id that an insertion draws.

## Theorems

* `TableStore.insertUser_inserts` and its siblings: What the insertions do.
* `TableStore.readable_iff`: Queries succeed exactly if every row is a record.
* `TableStore.insertion_cases`: Refused, or added with the next id.
* `TableStore.insertion_whole`: Insertions are whole while there are ids, and
  only then.
* `exhausted_insertion_stays`: An insertion that fails and leaves its row.
-/

namespace ChatHost

namespace Row

/-- A number that a record can have as its id. -/
def IsId (n : Int) : Prop := 0 ≤ n ∧ n ≤ 0xFFFFFFFF

theorem isOk_map {α β : Type} (f : α → β) (result : Except Fault α) :
    (result.map f).isOk = result.isOk := by
  cases result <;> rfl

-- An answer is what was found, with a name on it.
theorem exists_map_ok {α β : Type} {f : α → β} {result : Except Fault α} :
    (∃ answer, result.map f = .ok answer) ↔ ∃ found, result = .ok found := by
  rcases result with fault | found <;> simp [Except.map]

theorem narrow32_isOk (column : String) (n : Int) : (narrow32 column n).isOk = true ↔ IsId n := by
  rw [narrow32, narrow]
  by_cases hn : 0 ≤ n ∧ n ≤ ((0xFFFFFFFF : Nat) : Int)
  · rw [if_pos hn]
    exact ⟨fun _ => hn, fun _ => rfl⟩
  · rw [if_neg hn]
    exact ⟨fun h => absurd h Bool.false_ne_true, fun h => absurd h hn⟩

namespace Format

variable {ρ α β : Type} (F : Format ρ α)

/-- Every row of a table is a record. -/
def Readable (t : Table ρ) : Prop := ∀ row ∈ t.rows, ∃ a, F.record row = .ok a

/-- What an insertion makes of its table, and when it succeeds. -/
inductive Inserts (t : Table ρ) (result : Except Fault β) : Table ρ → Prop
  /-- The statement is refused. -/
  | refused {fault : Fault} : result = .error fault → Inserts t result t
  /-- The row of a record is added under the next id, and only then it is asked
      whether a record can have that id. -/
  | added {n : Int} (a : α) : t.nextId = .ok n → result.isOk = (narrow32 F.column n).isOk →
      Inserts t result (t.insert F.key (F.withKey n (F.ofRecord a)))

end Format

end Row

namespace Table

variable {ρ α : Type}

theorem nextId_ok {t : Table ρ} {n : Int} (h : t.nextId = .ok n) : n = t.last + 1 := by
  rw [nextId] at h
  split at h
  · exact (Except.ok.inj h).symm
  · simp at h

theorem mem_insertRow (key : ρ → Int) (row : ρ) (rows : List ρ) (r : ρ) :
    r ∈ insertRow key row rows ↔ r = row ∨ r ∈ rows := by
  induction rows with
  | nil => exact List.mem_cons
  | cons other rest ih =>
      rw [insertRow]
      split
      · exact List.mem_cons
      · rw [List.mem_cons, ih, List.mem_cons]
        exact or_left_comm

theorem length_insertRow (key : ρ → Int) (row : ρ) (rows : List ρ) :
    (insertRow key row rows).length = rows.length + 1 := by
  induction rows with
  | nil => rfl
  | cons other rest ih =>
      rw [insertRow]
      split
      · rfl
      · rw [List.length_cons, ih, List.length_cons]

-- Rows are read one after the other, and the first that is no record ends it.
theorem mapM_ok_iff (record : ρ → Except Fault α) (rows : List ρ) :
    (∃ found, rows.mapM record = .ok found) ↔ ∀ row ∈ rows, ∃ a, record row = .ok a := by
  induction rows with
  | nil => exact ⟨fun _ _ hrow => absurd hrow List.not_mem_nil, fun _ => ⟨[], rfl⟩⟩
  | cons row rest ih =>
      rw [List.forall_mem_cons, ← ih, List.mapM_cons]
      rcases record row with fault | a
      · simp [bind, Except.bind]
      · rcases rest.mapM record with fault | as
        · simp [bind, Except.bind]
        · simp [bind, Except.bind, pure, Except.pure]

-- A query fails only at a row that is no record.
theorem select_of_readable {F : Row.Format ρ α} {t : Table ρ} (h : F.Readable t) (p : ρ → Bool) :
    ∃ found, t.select p F.record = .ok found :=
  (mapM_ok_iff F.record _).mpr fun row hrow => h row (List.mem_filter.mp hrow).1

-- A query that wants every row meets every row.
theorem readable_of_select {F : Row.Format ρ α} {t : Table ρ} {p : ρ → Bool}
    (hp : ∀ row, p row = true) (h : ∃ found, t.select p F.record = .ok found) :
    F.Readable t := by
  intro row hrow
  exact (mapM_ok_iff F.record _).mp h row (List.mem_filter.mpr ⟨hrow, hp row⟩)

end Table

namespace Row.Format.Inserts

variable {ρ α β : Type} {F : Format ρ α} {t t' : Table ρ} {result : Except Fault β}

-- Insertions take no row away.
theorem length_le (h : F.Inserts t result t') : t.rows.length ≤ t'.rows.length := by
  cases h with
  | refused hresult => exact Nat.le_refl _
  | added a hn hresult =>
      rw [Table.insert, Table.length_insertRow]
      exact Nat.le_succ _

/-- An insertion is refused, or it adds a row. Then both whether it succeeds and
    whether its table can still be read depend on the next id alone. -/
theorem cases (h : F.Inserts t result t') :
    ((∃ fault, result = .error fault) ∧ t' = t) ∨
      ((result.isOk = true ↔ IsId (t.last + 1)) ∧
        (F.Readable t → (F.Readable t' ↔ IsId (t.last + 1)))) := by
  cases h with
  | refused hresult => exact Or.inl ⟨⟨_, hresult⟩, rfl⟩
  | added a hn hresult =>
      rw [← Table.nextId_ok hn]
      refine Or.inr ⟨by rw [hresult, narrow32_isOk], fun hreadable => ?_⟩
      rw [← narrow32_isOk F.column]
      constructor
      · intro hreadable'
        rcases hreadable' _ ((Table.mem_insertRow _ _ _ _).mpr (Or.inl rfl)) with ⟨b, hb⟩
        rw [F.record_withKey] at hb
        rcases hnarrow : narrow32 F.column _ with fault | id
        · rw [hnarrow] at hb
          simp [Except.map] at hb
        · rfl
      · intro hok row hrow
        rcases (Table.mem_insertRow _ _ _ _).mp hrow with rfl | hrow
        · rw [F.record_withKey]
          rcases hnarrow : narrow32 F.column _ with fault | id
          · rw [hnarrow] at hok
            exact absurd hok Bool.false_ne_true
          · exact ⟨F.withId id a, rfl⟩
        · exact hreadable row hrow

end Row.Format.Inserts

/-- Whether an operation is a query. -/
def StoreRequest.isQuery : StoreRequest → Bool
  | selectServers _ | selectUsers _ | selectChannels _ | selectMessages _ => true
  | _ => false

namespace TableStore

/-- Every row of every table is a record. -/
structure Readable (s : TableStore) : Prop where
  servers : ∀ id ∈ s.servers, ∃ server, Row.server id = .ok server
  users : userFormat.Readable s.users
  channels : channelFormat.Readable s.channels
  messages : messageFormat.Readable s.messages

/-- The id that an insertion draws. -/
def nextId? (s : TableStore) : StoreRequest → Option Int
  | .insertUser .. => some (s.users.last + 1)
  | .insertChannel .. => some (s.channels.last + 1)
  | .insertMessage .. => some (s.messages.last + 1)
  | _ => none

/-- Queries succeed exactly if every row is a record. -/
theorem readable_iff (s : TableStore) :
    s.Readable ↔ ∀ query : StoreRequest, query.isQuery = true →
      ∃ answer, (query.run s).1 = .ok answer := by
  constructor
  · intro h query hquery
    cases query with
    | selectServers id =>
        refine Row.exists_map_ok.mpr ((Table.mapM_ok_iff Row.server _).mpr ?_)
        intro row hrow
        exact h.servers row (List.mem_filter.mp hrow).1
    | selectUsers filter => exact Row.exists_map_ok.mpr (Table.select_of_readable h.users _)
    | selectChannels filter => exact Row.exists_map_ok.mpr (Table.select_of_readable h.channels _)
    | selectMessages filter => exact Row.exists_map_ok.mpr (Table.select_of_readable h.messages _)
    | _ => simp [StoreRequest.isQuery] at hquery
  · intro h
    constructor
    · intro id hid
      have hservers := Row.exists_map_ok.mp (h (.selectServers none) rfl)
      exact (Table.mapM_ok_iff Row.server _).mp hservers id (List.mem_filter.mpr ⟨hid, rfl⟩)
    · exact Table.readable_of_select (fun _ => rfl) (Row.exists_map_ok.mp (h (.selectUsers {}) rfl))
    · exact Table.readable_of_select (fun _ => rfl) (Row.exists_map_ok.mp (h (.selectChannels {}) rfl))
    · exact Table.readable_of_select (fun _ => rfl) (Row.exists_map_ok.mp (h (.selectMessages {}) rfl))

theorem insertUser_inserts (s : TableStore) (server : ServerId) (ip : Ip) (username : Name) :
    ∃ t, userFormat.Inserts s.users (s.insertUser server ip username).1 t ∧
      (s.insertUser server ip username).2 = { s with users := t } := by
  rw [insertUser]
  split
  · exact ⟨s.users, .refused rfl, rfl⟩
  · next n hn =>
    simp only
    split
    · exact ⟨s.users, .refused rfl, rfl⟩
    · exact ⟨s.users, .refused rfl, rfl⟩
    · next added hadd =>
      rcases addUser_ok hadd with ⟨rfl, -⟩
      exact ⟨_, .added { id := 0, server, username, ip } hn (Row.isOk_map _ _), rfl⟩

theorem insertChannel_inserts (s : TableStore) (name : Name) (server : ServerId) :
    ∃ t, channelFormat.Inserts s.channels (s.insertChannel name server).1 t ∧
      (s.insertChannel name server).2 = { s with channels := t } := by
  rw [insertChannel]
  split
  · exact ⟨s.channels, .refused rfl, rfl⟩
  · next n hn =>
    split
    · exact ⟨s.channels, .refused rfl, rfl⟩
    · exact ⟨s.channels, .refused rfl, rfl⟩
    · next added hadd =>
      obtain rfl := addChannel_ok hadd
      exact ⟨_, .added { id := 0, name, server } hn (Row.isOk_map _ _), rfl⟩

theorem insertMessage_inserts (s : TableStore) (text : String) (channel : ChannelId)
    (sender : UserId) :
    ∃ t, messageFormat.Inserts s.messages (s.insertMessage text channel sender).1 t ∧
      (s.insertMessage text channel sender).2 = { s with messages := t } := by
  rw [insertMessage]
  split
  · exact ⟨s.messages, .refused rfl, rfl⟩
  · split
    · exact ⟨s.messages, .refused rfl, rfl⟩
    · exact ⟨s.messages, .refused rfl, rfl⟩
    · next senderName n _ hn =>
      simp only
      split
      · exact ⟨s.messages, .refused rfl, rfl⟩
      · exact ⟨s.messages, .refused rfl, rfl⟩
      · next added hadd =>
        obtain rfl := addMessage_ok hadd
        exact ⟨_, .added (Receipt.message ⟨0, senderName⟩ channel sender text) hn
          (Row.isOk_map _ _), rfl⟩

-- What becomes of the table that an insertion goes into becomes of all tables.
theorem cases_of_inserts {ρ α β : Type} {F : Row.Format ρ α} {t t' : Table ρ}
    {result : Except Fault β} {wrap : β → StoreAnswer} {s s' : TableStore}
    (h : F.Inserts t result t') (hsame : t' = t → s' = s)
    (hs : s.Readable → F.Readable t ∧ (s'.Readable ↔ F.Readable t')) :
    ((∃ fault, result.map wrap = .error fault) ∧ s' = s) ∨
      (((result.map wrap).isOk = true ↔ Row.IsId (t.last + 1)) ∧
        (s.Readable → (s'.Readable ↔ Row.IsId (t.last + 1)))) := by
  rcases h.cases with ⟨⟨fault, hfault⟩, hkept⟩ | ⟨hok, hreadable⟩
  · exact Or.inl ⟨⟨fault, by rw [hfault]; rfl⟩, hsame hkept⟩
  · rw [Row.isOk_map]
    exact Or.inr ⟨hok, fun h => (hs h).2.trans (hreadable (hs h).1)⟩

/-- An insertion is refused and does nothing, or it adds a row with the next id, and
    then succeeds and leaves a table that can be read exactly if a record can have
    that id. -/
theorem insertion_cases (s : TableStore) {call : StoreRequest} {id : Int}
    (hid : s.nextId? call = some id) :
    ((∃ fault, (call.run s).1 = .error fault) ∧ (call.run s).2 = s) ∨
      (((call.run s).1.isOk = true ↔ Row.IsId id) ∧
        (s.Readable → ((call.run s).2.Readable ↔ Row.IsId id))) := by
  cases call with
  | insertUser server ip username =>
      obtain rfl := Option.some.inj hid
      rcases insertUser_inserts s server ip username with ⟨users, hinserts, hs⟩
      refine cases_of_inserts hinserts (fun hsame => ?_) (fun h => ⟨h.users, ?_⟩)
      · exact hs.trans (by rw [hsame])
      · exact hs.symm ▸ ⟨fun h' => h'.users, fun h' => { h with users := h' }⟩
  | insertChannel name server =>
      obtain rfl := Option.some.inj hid
      rcases insertChannel_inserts s name server with ⟨channels, hinserts, hs⟩
      refine cases_of_inserts hinserts (fun hsame => ?_) (fun h => ⟨h.channels, ?_⟩)
      · exact hs.trans (by rw [hsame])
      · exact hs.symm ▸ ⟨fun h' => h'.channels, fun h' => { h with channels := h' }⟩
  | insertMessage text channel sender =>
      obtain rfl := Option.some.inj hid
      rcases insertMessage_inserts s text channel sender with ⟨messages, hinserts, hs⟩
      refine cases_of_inserts hinserts (fun hsame => ?_) (fun h => ⟨h.messages, ?_⟩)
      · exact hs.trans (by rw [hsame])
      · exact hs.symm ▸ ⟨fun h' => h'.messages, fun h' => { h with messages := h' }⟩
  | _ => simp [nextId?] at hid

-- What is not a success is a failure.
theorem error_of_not_isOk {α : Type} {result : Except Fault α} (h : ¬ result.isOk = true) :
    ∃ fault, result = .error fault := by
  cases result with
  | error fault => exact ⟨fault, rfl⟩
  | ok a => exact absurd rfl h

/-- Insertions are whole while the next id is one that a record can have: one that
    fails leaves the tables as they were, and after any of them every query
    succeeds. Once it is not, every insertion fails, and one that the schema lets
    pass leaves a row at which queries fail. -/
theorem insertion_whole (s : TableStore) (h : s.Readable) {call : StoreRequest} {id : Int}
    (hid : s.nextId? call = some id) :
    (Row.IsId id →
      (∀ fault, (call.run s).1 = .error fault → (call.run s).2 = s) ∧
      (call.run s).2.Readable ∧
      ∀ query : StoreRequest, query.isQuery = true →
        ∃ answer, (query.run (call.run s).2).1 = .ok answer) ∧
    (¬ Row.IsId id →
      (∃ fault, (call.run s).1 = .error fault) ∧
      ((call.run s).2 = s ∨ ∃ query : StoreRequest, query.isQuery = true ∧
        ∃ fault, (query.run (call.run s).2).1 = .error fault)) := by
  rcases insertion_cases s hid with ⟨hfault, hsame⟩ | ⟨hok, hreadable⟩
  · -- A refused insertion leaves nothing, whatever the next id is.
    refine ⟨fun _ => ⟨fun _ _ => hsame, ?_⟩, fun _ => ⟨hfault, Or.inl hsame⟩⟩
    rw [hsame]
    exact ⟨h, (readable_iff s).mp h⟩
  · constructor
    · intro hfits
      have hreadable' := (hreadable h).mpr hfits
      refine ⟨?_, hreadable', (readable_iff _).mp hreadable'⟩
      intro fault hfault
      have := hok.mpr hfits
      rw [hfault] at this
      exact absurd this Bool.false_ne_true
    · intro hfits
      refine ⟨error_of_not_isOk fun h' => hfits (hok.mp h'), Or.inr ?_⟩
      by_contra hnone
      refine hfits ((hreadable h).mp ((readable_iff _).mpr ?_))
      intro query hquery
      rcases hanswer : (query.run (call.run s).2).1 with fault | answer
      · exact absurd ⟨query, hquery, fault, hanswer⟩ hnone
      · exact ⟨answer, rfl⟩

end TableStore

-- Tables that hold a server and one user can be read if both can.
theorem readable_of_one {server last : Int} {id : ServerId} {row : Row.User} {user : UserRecord}
    (hserver : Row.server server = .ok id) (hrow : row.record = .ok user) :
    TableStore.Readable { servers := [server], users := ⟨[row], last⟩ } where
  servers other hother := ⟨id, by rw [List.mem_singleton.mp hother, hserver]⟩
  users other hother := ⟨user, by rw [List.mem_singleton.mp hother]; exact hrow⟩
  channels _ hnone := absurd hnone List.not_mem_nil
  messages _ hnone := absurd hnone List.not_mem_nil

/-- Tables that hold a user whose address is not spelled as operations spell it. -/
def spelledOut : TableStore where
  servers := [4000]
  users := ⟨[⟨7, 4000, "2001:DB8::1", "carol", 1⟩], 7⟩

/-- The user says something in a channel that is not there. -/
def sayingNowhere : StoreRequest := .insertMessage "hi" 3 7

theorem saying_nowhere_leaves_tables :
    spelledOut.Readable ∧ spelledOut.nextId? sayingNowhere = some 1 ∧ Row.IsId 1 ∧
      (sayingNowhere.run spelledOut).1 = .error (.unknownChannel 3) ∧
      (sayingNowhere.run spelledOut).2 = spelledOut := by
  have hrecord : Row.User.record ⟨7, 4000, "2001:DB8::1", "carol", 1⟩ =
      .ok ⟨7, 4000, ⟨"carol", by decide⟩, .v6 ⟨[0x2001, 0xDB8, 0, 0, 0, 0, 0, 1], rfl⟩,
        .admin⟩ := by
    decide +kernel
  have hserver : Row.server 4000 = .ok 4000 := rfl
  have hreadable : spelledOut.Readable := readable_of_one hserver hrecord
  have hid : spelledOut.nextId? sayingNowhere = some 1 := rfl
  have hfits : Row.IsId 1 := ⟨by decide, by decide⟩
  have hfault : (sayingNowhere.run spelledOut).1 = .error (.unknownChannel 3) := by
    decide +kernel
  have hwhole := (TableStore.insertion_whole spelledOut hreadable hid).1 hfits
  exact ⟨hreadable, hid, hfits, hfault, hwhole.1 _ hfault⟩

/-- Tables in which a user has the largest id that a record can have. -/
def exhausted : TableStore where
  servers := [4000]
  users := ⟨[⟨4294967295, 4000, "10.0.0.2", "alice", 0⟩], 4294967295⟩

/-- Somebody else joins the server. -/
def joiningLate : StoreRequest := .insertUser 4000 (.v4 ⟨10, 0, 0, 3⟩) ⟨"dave", by decide⟩

/-- The last id has been given out. Whoever joins now is told that they could not,
    and their row stays, so that the users can no longer be listed. -/
theorem exhausted_insertion_stays :
    exhausted.Readable ∧
      (∃ fault, (joiningLate.run exhausted).1 = .error fault) ∧
      (joiningLate.run exhausted).2.users.rows.map (·.username) = ["alice", "dave"] ∧
      ¬ (joiningLate.run exhausted).2.Readable ∧
      ∃ fault, ((StoreRequest.selectUsers {}).run (joiningLate.run exhausted).2).1 =
        .error fault := by
  have hrecord : Row.User.record ⟨4294967295, 4000, "10.0.0.2", "alice", 0⟩ =
      .ok ⟨4294967295, 4000, ⟨"alice", by decide⟩, .v4 ⟨10, 0, 0, 2⟩, .member⟩ := by
    decide +kernel
  have hserver : Row.server 4000 = .ok 4000 := rfl
  have hfails : ((StoreRequest.selectUsers {}).run (joiningLate.run exhausted).2).1 =
      .error (.storage "hosted_server_users.id out of range: 4294967296") := by
    decide +kernel
  refine ⟨readable_of_one hserver hrecord,
    ⟨.storage "hosted_server_users.id out of range: 4294967296", by decide +kernel⟩,
    by decide +kernel, ?_, _, hfails⟩
  intro h
  rcases (TableStore.readable_iff _).mp h (.selectUsers {}) rfl with ⟨answer, hanswer⟩
  rw [hfails] at hanswer
  exact absurd hanswer (by simp)

end ChatHost
