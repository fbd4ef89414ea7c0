import ChatHost.Proofs.Address.RoundTrip
import ChatHost.Proofs.Store.Lawful
import ChatHost.Store.Tables

/-!
# Laws of the Tables

Why a server may take the tables of a database for lists of records.

A table holds rows, and a row need not be a record. Those that operations write
are, with one exception: the database gives out ids of 64 bits, and a row whose
id has outgrown 32 bits has no record. `Written` says of a row that an operation
could have written it, and leaves its id open for that reason. The view of the
tables passes over rows without a record, so an operation that leaves such a row
behind and then fails has, to the view, done nothing.

There are three tables, and what makes them alike is a `Format`: how records are
written, how they are read back, and where the id stands. Whatever can be said
of a table by its format alone is said once.

The columns hold numbers and texts where records hold ids, roles, names and
addresses. Each query compares columns, while a filter compares fields, and the
two agree because every column is an injective image of its field
(`columnIs_eq_agrees`). For addresses that is `Ip.toText_injective`.

## Main definitions

* `Row.Format`: How the records of one kind stand in rows.
* `Row.Format.Written`: A row that an operation could have written.
* `Row.Format.Kept`: A table as operations keep it.
* `userFormat`, `channelFormat`, `messageFormat`: The three formats.
* `TableStore.Orderly`: All three tables are as operations keep them.

## Theorems

* `Row.Format.eq_ofRecord`: A written row is the row of its record.
* `Kept.insert`: A new row goes to the end, and so does its record.
* `Kept.select_ok`: Comparing columns is comparing fields.
* `TableStore.orderly_empty`: The tables without rows are orderly.
-/

namespace ChatHost

namespace Row

theorem narrow32_toNat (column : String) (n : UInt32) : narrow32 column n.toNat = .ok n := by
  have hn := n.toNat_lt
  rw [narrow32, narrow, if_pos (by omega)]
  simp [Except.map]

theorem narrow16_toNat (column : String) (n : UInt16) : narrow16 column n.toNat = .ok n := by
  have hn := n.toNat_lt
  rw [narrow16, narrow, if_pos (by omega)]
  simp [Except.map]

-- An id that a record can have is the number in the column.
theorem toNat_of_narrow32 {column : String} {n : Int} {id : UInt32}
    (h : narrow32 column n = .ok id) : (id.toNat : Int) = n := by
  rw [narrow32, narrow] at h
  split at h
  · next hn =>
    simp only [Except.map, Except.ok.injEq] at h
    rw [← h, UInt32.toNat_ofNat']
    omega
  · simp [Except.map] at h

theorem toNat_of_narrow16 {column : String} {n : Int} {id : UInt16}
    (h : narrow16 column n = .ok id) : (id.toNat : Int) = n := by
  rw [narrow16, narrow] at h
  split at h
  · next hn =>
    simp only [Except.map, Except.ok.injEq] at h
    rw [← h, UInt16.toNat_ofNat']
    omega
  · simp [Except.map] at h

/-- How the records of one kind stand in rows. A row can have an id that no record
    can have, and then it has no record; but for the id, what is read back is what
    was written. -/
structure Format (ρ α : Type) where
  ofRecord : α → ρ
  record : ρ → Except Fault α
  /-- The id in a row, and the row with another one. -/
  key : ρ → Int
  withKey : Int → ρ → ρ
  /-- The id of a record, and the record with another one. -/
  id : α → UInt32
  withId : UInt32 → α → α
  column : String
  key_withKey (n : Int) (row : ρ) : key (withKey n row) = n
  id_withId (n : UInt32) (a : α) : id (withId n a) = n
  withKey_toNat (n : UInt32) (a : α) : withKey n.toNat (ofRecord a) = ofRecord (withId n a)
  record_withKey (n : Int) (a : α) :
    record (withKey n (ofRecord a)) = (narrow32 column n).map fun id => withId id a

namespace Format

variable {ρ α : Type} (F : Format ρ α)

/-- The record of a row, if it has one. -/
def record? (row : ρ) : Option α := (F.record row).toOption

/-- Whether an operation could have written a row: it is that of a record, up to
    the id. -/
def Written (row : ρ) : Prop := ∃ (a : α) (n : Int), row = F.withKey n (F.ofRecord a)

/-- The records of the rows that have one. -/
def records (t : Table ρ) : List α := t.rows.filterMap F.record?

/-- A table as operations keep it: rows are written and ascend, and no id passes
    the last one that was given out. -/
structure Kept (t : Table ρ) : Prop where
  ascends : Ascends F.key t.rows t.last
  written : ∀ row ∈ t.rows, F.Written row

/-- A written row that has a record is the row of that record. -/
theorem eq_ofRecord {row : ρ} (hrow : F.Written row) {a : α} (h : F.record? row = some a) :
    row = F.ofRecord a ∧ F.key row = (F.id a).toNat := by
  rcases hrow with ⟨written, n, rfl⟩
  rw [record?, F.record_withKey] at h
  rcases hn : narrow32 F.column n with fault | id
  · simp [hn, Except.map, Except.toOption] at h
  · simp only [hn, Except.map, Except.toOption, Option.some.injEq] at h
    -- The id of the record is the number that stands in the row.
    rw [← h, F.id_withId, F.key_withKey, ← toNat_of_narrow32 hn]
    exact ⟨F.withKey_toNat id written, rfl⟩

end Format

end Row

namespace Table

variable {ρ α : Type}

-- A row behind all others goes to the end.
theorem insertRow_last (key : ρ → Int) (row : ρ) (rows : List ρ)
    (h : ∀ other ∈ rows, key other < key row) : insertRow key row rows = rows ++ [row] := by
  induction rows with
  | nil => rfl
  | cons other rest ih =>
      have hother := h other List.mem_cons_self
      rw [insertRow, if_neg (by omega), ih fun r hr => h r (List.mem_cons_of_mem _ hr),
        List.cons_append]

-- A row with the next id goes to the end of its table.
theorem insert_next (key : ρ → Int) (t : Table ρ) (row : ρ) {id : Int}
    (h : Ascends key t.rows t.last) (hid : t.nextId = .ok id) (hrow : key row = id) :
    (t.insert key row).rows = t.rows ++ [row] ∧
      Ascends key (t.insert key row).rows (t.insert key row).last := by
  have hlt : t.last < key row := by
    rw [nextId] at hid
    split at hid
    · have := Except.ok.inj hid
      omega
    · simp at hid
  have hrows : insertRow key row t.rows = t.rows ++ [row] :=
    insertRow_last key row t.rows fun other hother =>
      Int.lt_of_le_of_lt (h.le_last other hother) hlt
  simp only [insert, hrows, Int.max_eq_right (Int.le_of_lt hlt), true_and]
  exact h.append row hlt

-- The records that are selected are those of the rows that have one.
theorem mapM_record (record : ρ → Except Fault α) (rows : List ρ) (found : List α)
    (h : rows.mapM record = .ok found) :
    found = rows.filterMap fun row => (record row).toOption := by
  induction rows generalizing found with
  | nil =>
      simp only [List.mapM_nil, pure, Except.pure, Except.ok.injEq] at h
      rw [← h, List.filterMap_nil]
  | cons row rest ih =>
      rw [List.mapM_cons] at h
      -- One row without a record would have made the whole query fail.
      rcases hrow : record row with fault | a
      · simp [hrow, bind, Except.bind] at h
      · rcases hrest : rest.mapM record with fault | as
        · simp [hrow, hrest, bind, Except.bind] at h
        · simp only [hrow, hrest, bind, Except.bind, pure, Except.pure, Except.ok.injEq] at h
          rw [← h, ih as hrest, List.filterMap_cons, hrow]
          rfl

-- Comparing columns is comparing fields, if both agree on every row that has a
-- record.
theorem filter_filterMap_records (g : ρ → Option α) (p : ρ → Bool) (q : α → Bool)
    (rows : List ρ) (h : ∀ row ∈ rows, ∀ a, g row = some a → p row = q a) :
    (rows.filter p).filterMap g = (rows.filterMap g).filter q := by
  induction rows with
  | nil => rfl
  | cons row rest ih =>
      have hrest := ih fun r hr => h r (List.mem_cons_of_mem _ hr)
      rcases hrow : g row with _ | a
      · rw [List.filterMap_cons_none hrow, ← hrest, List.filter_cons]
        by_cases hp : p row = true
        · rw [if_pos hp, List.filterMap_cons_none hrow]
        · rw [if_neg hp]
      · rw [List.filterMap_cons_some hrow, List.filter_cons, List.filter_cons, ← hrest,
          h row List.mem_cons_self a hrow]
        by_cases hq : q a = true
        · rw [if_pos hq, if_pos hq, List.filterMap_cons_some hrow]
        · rw [if_neg hq, if_neg hq]

end Table

namespace Row.Format.Kept

variable {ρ α : Type} {F : Format ρ α} {t : Table ρ}

theorem empty : F.Kept {} := ⟨.nil _, fun _ h => absurd h (by simp)⟩

-- Records ascend as their rows do.
theorem ascend (h : F.Kept t) : (F.records t).Pairwise fun a b => F.id a < F.id b := by
  unfold records
  rw [List.pairwise_filterMap]
  refine h.ascends.pairwise.imp_of_mem ?_
  intro row row' hrow hrow' hlt a ha b hb
  have hida := (F.eq_ofRecord (h.written row hrow) ha).2
  have hidb := (F.eq_ofRecord (h.written row' hrow') hb).2
  rw [UInt32.lt_iff_toNat_lt]
  omega

/-- A query that succeeds finds the records that its filter wants, if comparing
    columns is comparing fields. -/
theorem select_ok (h : F.Kept t) {p : ρ → Bool} {q : α → Bool} {found : List α}
    (hfound : t.select p F.record = .ok found) (hpq : ∀ a, p (F.ofRecord a) = q a) :
    found = (F.records t).filter q := by
  rw [Table.mapM_record F.record _ found hfound]
  refine Table.filter_filterMap_records _ p q t.rows ?_
  intro row hrow a ha
  rw [(F.eq_ofRecord (h.written row hrow) ha).1]
  exact hpq a

/-- A row with the next id goes to the end of its table. Its record does the same,
    unless the id is too large for one, and then the view stays as it was. -/
theorem insert (h : F.Kept t) {n : Int} (hn : t.nextId = .ok n) (a : α) :
    F.Kept (t.insert F.key (F.withKey n (F.ofRecord a))) ∧
      F.records (t.insert F.key (F.withKey n (F.ofRecord a))) = F.records t ++
        ((narrow32 F.column n).map fun id => F.withId id a).toOption.toList := by
  rcases Table.insert_next F.key t _ h.ascends hn (F.key_withKey n (F.ofRecord a)) with
    ⟨hrows, hascends⟩
  refine ⟨⟨hascends, ?_⟩, ?_⟩
  · intro row hrow
    rw [hrows] at hrow
    rcases List.mem_append.mp hrow with hrow | hrow
    · exact h.written row hrow
    · exact ⟨a, n, List.mem_singleton.mp hrow⟩
  · unfold records
    rw [hrows, List.filterMap_append, ← F.record_withKey, List.filterMap_cons, List.filterMap_nil,
      record?]
    -- A row without a record adds nothing to the view.
    cases (F.record (F.withKey n (F.ofRecord a))).toOption <;> rfl

-- Changing rows as their records are changed, ids apart.
theorem map (h : F.Kept t) (f : ρ → ρ) (g : α → α) (hkey : ∀ row, F.key (f row) = F.key row)
    (hf : ∀ n a, f (F.withKey n (F.ofRecord a)) = F.withKey n (F.ofRecord (g a)))
    (hg : ∀ n a, g (F.withId n a) = F.withId n (g a)) :
    F.Kept { t with rows := t.rows.map f } ∧
      F.records { t with rows := t.rows.map f } = (F.records t).map g := by
  refine ⟨⟨h.ascends.map f hkey, ?_⟩, ?_⟩
  · intro row hrow
    rcases List.mem_map.mp hrow with ⟨old, hold, rfl⟩
    rcases h.written old hold with ⟨a, n, rfl⟩
    exact ⟨g a, n, hf n a⟩
  · unfold records
    rw [List.filterMap_map, List.map_filterMap]
    refine List.filterMap_congr ?_
    intro row hrow
    rcases h.written row hrow with ⟨a, n, rfl⟩
    rw [Function.comp_apply, hf, record?, record?, F.record_withKey, F.record_withKey]
    rcases narrow32 F.column n with fault | id
    · rfl
    · exact congrArg some (hg id a).symm

end Row.Format.Kept

/-- Users in their table. -/
def userFormat : Row.Format Row.User UserRecord where
  ofRecord := Row.User.ofRecord
  record := Row.User.record
  key row := row.id
  withKey n row := { row with id := n }
  id user := user.id
  withId n user := { user with id := n }
  column := "hosted_server_users.id"
  key_withKey _ _ := rfl
  id_withId _ _ := rfl
  withKey_toNat _ _ := rfl
  record_withKey n user := by
    rcases hn : Row.narrow32 "hosted_server_users.id" n with fault | id <;>
      simp [Row.User.record, Row.User.ofRecord, Ip.parse?_toText, Row.orFault, hn,
        Row.narrow16_toNat, Name.ofText_text, Except.map, bind, Except.bind, pure, Except.pure]

/-- Channels in their table. -/
def channelFormat : Row.Format Row.Channel Channel where
  ofRecord := Row.Channel.ofRecord
  record := Row.Channel.record
  key row := row.id
  withKey n row := { row with id := n }
  id channel := channel.id
  withId n channel := { channel with id := n }
  column := "server_chat_channels.id"
  key_withKey _ _ := rfl
  id_withId _ _ := rfl
  withKey_toNat _ _ := rfl
  record_withKey n channel := by
    rcases hn : Row.narrow32 "server_chat_channels.id" n with fault | id <;>
      simp [Row.Channel.record, Row.Channel.ofRecord, hn, Row.narrow16_toNat, Name.ofText_text,
        Except.map, bind, Except.bind, pure, Except.pure]

/-- Messages in their table. -/
def messageFormat : Row.Format Row.Message Message where
  ofRecord := Row.Message.ofRecord
  record := Row.Message.record
  key row := row.id
  withKey n row := { row with id := n }
  id message := message.id
  withId n message := { message with id := n }
  column := "channel_messages.id"
  key_withKey _ _ := rfl
  id_withId _ _ := rfl
  withKey_toNat _ _ := rfl
  record_withKey n message := by
    rcases hn : Row.narrow32 "channel_messages.id" n with fault | id <;>
      simp [Row.Message.record, Row.Message.ofRecord, hn, Row.narrow32_toNat, Name.ofText_text,
        Except.map, bind, Except.bind, pure, Except.pure]

namespace TableStore

-- What a column is compared with stands for the field of a record.
theorem columnIs_eq_agrees {α β : Type} [DecidableEq α] [DecidableEq β] (column : β → α)
    (hcolumn : ∀ {x y}, column x = column y → x = y) (wanted : Option β) (value : β) :
    columnIs (wanted.map column) (column value) = agrees wanted value := by
  cases wanted with
  | none => rfl
  | some w =>
      simp only [columnIs, agrees, Option.map_some, decide_eq_decide]
      exact ⟨fun h => (hcolumn h).symm, fun h => h ▸ rfl⟩

theorem columnIs_text (wanted : Option String) (value : String) :
    columnIs wanted value = agrees wanted value := by
  simpa using columnIs_eq_agrees id id wanted value

theorem column32_injective {x y : UInt32} (h : (x.toNat : Int) = y.toNat) : x = y :=
  UInt32.toNat_inj.mp (by omega)

theorem column16_injective {x y : UInt16} (h : (x.toNat : Int) = y.toNat) : x = y :=
  UInt16.toNat_inj.mp (by omega)

-- Two ids are the same exactly if their columns are.
theorem column32_inj {x y : UInt32} : (x.toNat : Int) = y.toNat ↔ x = y :=
  ⟨column32_injective, congrArg fun id : UInt32 => (id.toNat : Int)⟩

theorem column16_inj {x y : UInt16} : (x.toNat : Int) = y.toNat ↔ x = y :=
  ⟨column16_injective, congrArg fun id : UInt16 => (id.toNat : Int)⟩

theorem role_code_injective {x y : Role} (h : x.code = y.code) : x = y := by
  have hx := Role.ofCode?_code x
  rw [h, Role.ofCode?_code] at hx
  exact (Option.some.inj hx).symm

/-- All tables are as operations keep them. -/
structure Orderly (s : TableStore) : Prop where
  users : userFormat.Kept s.users
  channels : channelFormat.Kept s.channels
  messages : messageFormat.Kept s.messages

theorem orderly_empty : Orderly empty := ⟨.empty, .empty, .empty⟩

/-- The records of those rows that have one. -/
def records (s : TableStore) : Records where
  users := userFormat.records s.users
  channels := channelFormat.records s.channels
  messages := messageFormat.records s.messages

-- What a query for users compares is what its filter compares.
theorem userColumns_agree (filter : UserFilter) (user : UserRecord) :
    (columnIs (filter.server.map fun n : ServerId => (n.toNat : Int))
        (Row.User.ofRecord user).server &&
      columnIs (filter.role.map Role.code) (Row.User.ofRecord user).role &&
      columnIs filter.username (Row.User.ofRecord user).username &&
      columnIs (filter.ip.map Ip.toText) (Row.User.ofRecord user).ip) = filter.admits user := by
  simp only [Row.User.ofRecord, UserFilter.admits, columnIs_text,
    columnIs_eq_agrees (fun n : ServerId => (n.toNat : Int)) column16_injective,
    columnIs_eq_agrees Role.code role_code_injective,
    columnIs_eq_agrees Ip.toText Ip.toText_injective]

theorem channelColumns_agree (filter : ChannelFilter) (channel : Channel) :
    (columnIs (filter.id.map fun n : ChannelId => (n.toNat : Int))
        (Row.Channel.ofRecord channel).id &&
      columnIs filter.name (Row.Channel.ofRecord channel).name &&
      columnIs (filter.server.map fun n : ServerId => (n.toNat : Int))
        (Row.Channel.ofRecord channel).server) = filter.admits channel := by
  simp only [Row.Channel.ofRecord, ChannelFilter.admits, columnIs_text,
    columnIs_eq_agrees (fun n : ChannelId => (n.toNat : Int)) column32_injective,
    columnIs_eq_agrees (fun n : ServerId => (n.toNat : Int)) column16_injective]

theorem messageColumns_agree (filter : MessageFilter) (message : Message) :
    (columnIs (filter.id.map fun n : MessageId => (n.toNat : Int))
        (Row.Message.ofRecord message).id &&
      columnIs filter.text (Row.Message.ofRecord message).text &&
      columnIs (filter.sender.map fun n : UserId => (n.toNat : Int))
        (Row.Message.ofRecord message).sender &&
      columnIs (filter.channel.map fun n : ChannelId => (n.toNat : Int))
        (Row.Message.ofRecord message).channel) = filter.admits message := by
  simp only [Row.Message.ofRecord, MessageFilter.admits, columnIs_text,
    columnIs_eq_agrees (fun n : UInt32 => (n.toNat : Int)) column32_injective]

theorem selectUsers_ok {s : TableStore} {filter : UserFilter} {found : List UserRecord}
    (h : Orderly s) (hfound : s.selectUsers filter = .ok found) :
    found = s.records.users.filter filter.admits :=
  h.users.select_ok hfound (userColumns_agree filter)

theorem selectChannels_ok {s : TableStore} {filter : ChannelFilter} {found : List Channel}
    (h : Orderly s) (hfound : s.selectChannels filter = .ok found) :
    found = s.records.channels.filter filter.admits :=
  h.channels.select_ok hfound (channelColumns_agree filter)

theorem selectMessages_ok {s : TableStore} {filter : MessageFilter} {found : List Message}
    (h : Orderly s) (hfound : s.selectMessages filter = .ok found) :
    found = s.records.messages.filter filter.admits :=
  h.messages.select_ok hfound (messageColumns_agree filter)

-- A row added to the users of the tables.
theorem addUser_ok {s s' : TableStore} {row : Row.User} (h : s.addUser row = .ok s') :
    s' = { s with users := s.users.insert (·.id) row } ∧
      ∀ other ∈ s.users.rows, other.server = row.server → other.ip ≠ row.ip := by
  rw [addUser] at h
  split at h
  · simp at h
  · next hkey =>
    split at h
    · simp at h
    · refine ⟨(Except.ok.inj h).symm, ?_⟩
      intro other hother hserver hip
      apply hkey
      rw [Table.has, List.any_eq_true]
      exact ⟨other, hother, by simp [hserver, hip]⟩

-- A user who was inserted is at the end of the view, and if the operation failed,
-- nobody is. Their address is new to the server.
theorem insertUser_records {s s' : TableStore} {server : ServerId} {ip : Ip} {username : Name}
    {result : Except Fault UserRecord} (h : Orderly s)
    (hresult : s.insertUser server ip username = (result, s')) :
    Orderly s' ∧ s'.records =
        { s.records with users := s.records.users ++ result.toOption.toList } ∧
      ∀ user, result = .ok user → user = { id := user.id, server, username, ip } ∧
        ∀ u ∈ s.records.users, u.server = server → u.ip ≠ ip := by
  have hrefused : ∀ fault : Fault, (Except.error fault, s) = (result, s') →
      Orderly s' ∧ s'.records =
          { s.records with users := s.records.users ++ result.toOption.toList } ∧
        ∀ user, result = .ok user → user = { id := user.id, server, username, ip } ∧
          ∀ u ∈ s.records.users, u.server = server → u.ip ≠ ip := by
    intro fault heq
    rcases Prod.mk.inj heq with ⟨rfl, rfl⟩
    exact ⟨h, by simp [Except.toOption], fun user huser => absurd huser (by simp)⟩
  rw [insertUser] at hresult
  split at hresult
  · exact hrefused _ hresult
  · next id hid =>
    simp only at hresult
    split at hresult
    · exact hrefused _ hresult
    · exact hrefused _ hresult
    · next added hadd =>
      rcases Prod.mk.inj hresult with ⟨rfl, rfl⟩
      rcases addUser_ok hadd with ⟨rfl, hnew⟩
      rcases h.users.insert hid { id := 0, server, username, ip } with ⟨hkept, hrecords⟩
      refine ⟨{ h with users := hkept }, ?_, ?_⟩
      · exact congrArg (fun users => { s.records with users := users }) hrecords
      · intro user huser
        rcases hnarrow : Row.narrow32 "hosted_server_users.id" id with fault | id'
        · simp [hnarrow, Except.map] at huser
        · simp only [hnarrow, Except.map, Except.ok.injEq] at huser
          refine ⟨by rw [← huser], ?_⟩
          intro u hu hserver hip
          rcases List.mem_filterMap.mp hu with ⟨row, hrow, hrecord⟩
          have hu' := (userFormat.eq_ofRecord (h.users.written row hrow) hrecord).1
          refine hnew row hrow ?_ ?_
          · rw [hu', ← hserver]
            rfl
          · rw [hu', ← hip]
            rfl

-- A row added to the channels of the tables.
theorem addChannel_ok {s s' : TableStore} {row : Row.Channel} (h : s.addChannel row = .ok s') :
    s' = { s with channels := s.channels.insert (·.id) row } := by
  rw [addChannel] at h
  split at h
  · simp at h
  · split at h
    · simp at h
    · exact (Except.ok.inj h).symm

-- The view after a channel was inserted.
theorem insertChannel_records {s s' : TableStore} {name : Name} {server : ServerId}
    {result : Except Fault Channel} (h : Orderly s)
    (hresult : s.insertChannel name server = (result, s')) :
    Orderly s' ∧ s'.records =
        { s.records with channels := s.records.channels ++ result.toOption.toList } ∧
      ∀ channel, result = .ok channel → channel = { id := channel.id, name, server } := by
  have hrefused : ∀ fault : Fault, (Except.error fault, s) = (result, s') →
      Orderly s' ∧ s'.records =
          { s.records with channels := s.records.channels ++ result.toOption.toList } ∧
        ∀ channel, result = .ok channel → channel = { id := channel.id, name, server } := by
    intro fault heq
    rcases Prod.mk.inj heq with ⟨rfl, rfl⟩
    exact ⟨h, by simp [Except.toOption], fun channel hchannel => absurd hchannel (by simp)⟩
  rw [insertChannel] at hresult
  split at hresult
  · exact hrefused _ hresult
  · next id hid =>
    split at hresult
    · exact hrefused _ hresult
    · exact hrefused _ hresult
    · next added hadd =>
      rcases Prod.mk.inj hresult with ⟨rfl, rfl⟩
      rw [addChannel_ok hadd]
      rcases h.channels.insert hid { id := 0, name, server } with ⟨hkept, hrecords⟩
      refine ⟨{ h with channels := hkept }, ?_, ?_⟩
      · exact congrArg (fun channels => { s.records with channels := channels }) hrecords
      · intro channel hchannel
        rcases hnarrow : Row.narrow32 "server_chat_channels.id" id with fault | id'
        · simp [hnarrow, Except.map] at hchannel
        · simp only [hnarrow, Except.map, Except.ok.injEq] at hchannel
          rw [← hchannel]

-- A row added to the messages of the tables.
theorem addMessage_ok {s s' : TableStore} {row : Row.Message} (h : s.addMessage row = .ok s') :
    s' = { s with messages := s.messages.insert (·.id) row } := by
  rw [addMessage] at h
  split at h
  · simp at h
  · split at h
    · simp at h
    · exact (Except.ok.inj h).symm

-- The view after a message was inserted.
theorem insertMessage_records {s s' : TableStore} {text : String} {channel : ChannelId}
    {sender : UserId} {result : Except Fault Receipt} (h : Orderly s)
    (hresult : s.insertMessage text channel sender = (result, s')) :
    Orderly s' ∧ s'.records = { s.records with
      messages := s.records.messages ++
        (result.map fun receipt => receipt.message channel sender text).toOption.toList } := by
  have hrefused : ∀ fault : Fault, (Except.error fault, s) = (result, s') →
      Orderly s' ∧ s'.records = { s.records with
        messages := s.records.messages ++
          (result.map fun receipt => receipt.message channel sender text).toOption.toList } := by
    intro fault heq
    rcases Prod.mk.inj heq with ⟨rfl, rfl⟩
    exact ⟨h, by simp [Except.map, Except.toOption]⟩
  rw [insertMessage] at hresult
  split at hresult
  · exact hrefused _ hresult
  · split at hresult
    · exact hrefused _ hresult
    · exact hrefused _ hresult
    · next senderName id _ hid =>
      simp only at hresult
      split at hresult
      · exact hrefused _ hresult
      · exact hrefused _ hresult
      · next added hadd =>
        rcases Prod.mk.inj hresult with ⟨rfl, rfl⟩
        rw [addMessage_ok hadd]
        rcases h.messages.insert hid (Receipt.message ⟨0, senderName⟩ channel sender text) with
          ⟨hkept, hrecords⟩
        refine ⟨{ h with messages := hkept }, ?_⟩
        have hview := congrArg (fun messages => { s.records with messages := messages }) hrecords
        refine hview.trans ?_
        rcases hnarrow : Row.narrow32 "channel_messages.id" id with fault | id' <;>
          simp only [messageFormat, hnarrow] <;> rfl

/-- The row of a user after a change of roles. -/
def withRoleIf (server : ServerId) (username : String) (role : Role) (row : Row.User) :
    Row.User :=
  if goesBy server username row then { row with role := role.code } else row

-- Who goes by a name does so in the row, whatever the id in it.
theorem goesBy_withKey (server : ServerId) (username : String) (n : Int) (user : UserRecord) :
    goesBy server username (userFormat.withKey n (userFormat.ofRecord user)) =
      MemoryStore.goesBy server username user := by
  rw [goesBy, MemoryStore.goesBy]
  exact congrArg (· && decide (user.username.text = username)) (decide_eq_decide.mpr column16_inj)

-- Changing the role in a row changes it in the record.
theorem withRoleIf_ofRecord (server : ServerId) (username : String) (role : Role) (n : Int)
    (user : UserRecord) :
    withRoleIf server username role (userFormat.withKey n (userFormat.ofRecord user)) =
      userFormat.withKey n (userFormat.ofRecord (user.withRoleIf server username role)) := by
  have hgoes := goesBy_withKey server username n user
  rw [withRoleIf, UserRecord.withRoleIf, hgoes]
  by_cases hname : MemoryStore.goesBy server username user = true
  · rw [if_pos hname, if_pos hname]
    rfl
  · rw [if_neg hname, if_neg hname]

theorem updateRole_ok {s s' : TableStore} {server : ServerId} {username : String} {role : Role}
    {found : Bool} (h : Orderly s)
    (hok : s.updateRole server username role = (.ok found, s')) :
    Orderly s' ∧ s'.records = { s.records with
      users := s.records.users.map (UserRecord.withRoleIf server username role) } := by
  rcases Prod.mk.inj hok with ⟨-, rfl⟩
  have hkey : ∀ row, userFormat.key (withRoleIf server username role row) = userFormat.key row := by
    intro row
    rw [withRoleIf]
    split <;> rfl
  -- Who goes by a name does so under any id.
  have hid : ∀ (n : UserId) (user : UserRecord),
      (userFormat.withId n user).withRoleIf server username role =
        userFormat.withId n (user.withRoleIf server username role) := by
    intro n user
    have hgoes : MemoryStore.goesBy server username (userFormat.withId n user) =
        MemoryStore.goesBy server username user := rfl
    rw [UserRecord.withRoleIf, UserRecord.withRoleIf, hgoes]
    split <;> rfl
  rcases h.users.map (withRoleIf server username role) (UserRecord.withRoleIf server username role)
    hkey (withRoleIf_ofRecord server username role) hid with ⟨hkept, hrecords⟩
  exact ⟨{ h with users := hkept },
    congrArg (fun users => { s.records with users := users }) hrecords⟩

instance : LawfulGateway TableStore where
  records := records
  Orderly := Orderly
  users_ascend h := h.users.ascend
  channels_ascend h := h.channels.ascend
  messages_ascend h := h.messages.ascend
  selectUsers_ok := selectUsers_ok
  selectChannels_ok := selectChannels_ok
  selectMessages_ok := selectMessages_ok
  insertServer_keeps {s s' id result} h hresult := by
    change s.insertServer id = _ at hresult
    rw [insertServer, addServer] at hresult
    split at hresult
    · rcases Prod.mk.inj hresult with ⟨-, rfl⟩
      exact ⟨h, rfl⟩
    · next hadd =>
      rcases Prod.mk.inj hresult with ⟨-, rfl⟩
      split at hadd
      · simp at hadd
      · rw [← Except.ok.inj hadd]
        exact ⟨{ h with }, rfl⟩
  insertUser_ok h hok := by
    rcases insertUser_records h hok with ⟨horderly, hrecords, hfresh⟩
    exact ⟨horderly, (hfresh _ rfl).1, (hfresh _ rfl).2, hrecords⟩
  insertUser_error h herror := by
    rcases insertUser_records h herror with ⟨horderly, hrecords, -⟩
    exact ⟨horderly, hrecords.trans (by simp [Except.toOption])⟩
  insertChannel_ok h hok := by
    rcases insertChannel_records h hok with ⟨horderly, hrecords, hfresh⟩
    exact ⟨horderly, hfresh _ rfl, hrecords⟩
  insertChannel_error h herror := by
    rcases insertChannel_records h herror with ⟨horderly, hrecords, -⟩
    exact ⟨horderly, hrecords.trans (by simp [Except.toOption])⟩
  insertMessage_ok h hok := insertMessage_records h hok
  insertMessage_error h herror := by
    rcases insertMessage_records h herror with ⟨horderly, hrecords⟩
    exact ⟨horderly, hrecords.trans (by simp [Except.map, Except.toOption])⟩
  updateRole_ok := updateRole_ok
  updateRole_error _ herror := absurd (Prod.mk.inj herror).1 (by simp)

end TableStore

end ChatHost
