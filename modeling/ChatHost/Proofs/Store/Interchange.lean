import ChatHost.Proofs.Store.Insertion
import ChatHost.Proofs.Store.MemoryLaws

/-!
# Two Kinds of Store, One Behaviour

Whether a host runs on the store in memory or on the tables of a database, its
operations return the same.

The store in memory checks keys and references by itself and gives out its own
ids. The tables leave all of that to the schema, whose order of checks is
another one: the database draws an id first, looks for repeated keys next and
for references last. That the two come to the same fault rests on what either
of them holds. A user is always one of a registered server, so an unknown server
cannot also have a repeated address; and whoever sends is looked for before the
message is added in both.

The invariant is that the tables hold the rows of the records in memory, in the
same order, and that both have counted as far as they have records (`Mirrors`).
Counting is what bounds the law. A refused insertion uses up no id in either
store, so the last id is the number of records, and as long as there are fewer
than `UInt32.size - 1` of a kind, both stores have an id left.

## Main definitions

* `Row.Format.Mirrors`: A table holds the rows of a list of records.
* `TableStore.Roomy`: No table has used up the ids of records.
* `StoreRequest.answers`: What operations return, one after the other.
* `Mirrors`: The tables hold what a store in memory holds.

## Theorems

* `Row.Format.Mirrors.select`: A query finds the same in both.
* `Row.Format.Mirrors.insert`: A new record goes to the end of both.
* `Mirrors.run`: An operation returns the same and keeps the invariant.
* `answers_interchangeable`: So does every history of operations.
-/

namespace ChatHost

-- Ids count up.
theorem MemoryStore.toNat_of_nextId {last id : UInt32} (h : nextId last = .ok id) :
    id.toNat = last.toNat + 1 := by
  rw [nextId] at h
  split at h
  · next hlt =>
    rw [← Except.ok.inj h, UInt32.toNat_add, UInt32.toNat_one]
    exact Nat.mod_eq_of_lt hlt
  · simp at h

/-- What is written and read back is found by comparing columns as it is by comparing
    fields. -/
theorem Table.select_written {ρ α : Type} {write : α → ρ} {read : ρ → Except Fault α}
    (hread : ∀ a, read (write a) = .ok a) {p : ρ → Bool} {q : α → Bool}
    (hpq : ∀ a, p (write a) = q a) (items : List α) :
    ((items.map write).filter p).mapM read = .ok (items.filter q) := by
  induction items with
  | nil => rfl
  | cons a rest ih =>
      rw [List.map_cons, List.filter_cons, List.filter_cons, hpq]
      by_cases hq : q a = true
      · rw [if_pos hq, if_pos hq, List.mapM_cons, hread, ih]
        rfl
      · rw [if_neg hq, if_neg hq, ih]

namespace Row.Format

variable {ρ α : Type} {F : Format ρ α}

/-- The id of a record is the one that makes it what it is. -/
def Exact (F : Format ρ α) : Prop := ∀ a, F.withId (F.id a) a = a

theorem Exact.withKey_id (hF : F.Exact) (a : α) :
    F.withKey (F.id a).toNat (F.ofRecord a) = F.ofRecord a := by
  rw [F.withKey_toNat, hF]

theorem Exact.record_ofRecord (hF : F.Exact) (a : α) : F.record (F.ofRecord a) = .ok a := by
  have hread := F.record_withKey (F.id a).toNat a
  rw [hF.withKey_id, narrow32_toNat] at hread
  rw [hread, Except.map, hF]

theorem Exact.key_ofRecord (hF : F.Exact) (a : α) : F.key (F.ofRecord a) = (F.id a).toNat := by
  have hkey := F.key_withKey (F.id a).toNat (F.ofRecord a)
  rwa [hF.withKey_id] at hkey

/-- A table holds the rows of some records in their order, and the last id that was
    given out is the number of records. -/
structure Mirrors (F : Format ρ α) (items : List α) (last : UInt32) (t : Table ρ) : Prop where
  rows : t.rows = items.map F.ofRecord
  counted : t.last = last.toNat
  count : items.length = last.toNat
  ascends : Ascends (fun a => ((F.id a).toNat : Int)) items last.toNat

namespace Mirrors

variable {items : List α} {last : UInt32} {t : Table ρ}

theorem empty : F.Mirrors [] 0 {} := ⟨rfl, rfl, rfl, .nil _⟩

/-- A query finds the records that its filter wants, if comparing columns is
    comparing fields. -/
theorem select (h : F.Mirrors items last t) (hF : F.Exact) {p : ρ → Bool} {q : α → Bool}
    (hpq : ∀ a, p (F.ofRecord a) = q a) : t.select p F.record = .ok (items.filter q) := by
  rw [Table.select, h.rows]
  exact Table.select_written hF.record_ofRecord hpq items

theorem has (h : F.Mirrors items last t) {p : ρ → Bool} {q : α → Bool}
    (hpq : ∀ a ∈ items, p (F.ofRecord a) = q a) : t.has p = items.any q := by
  rw [Table.has, h.rows, List.any_map, Bool.eq_iff_iff, List.any_eq_true, List.any_eq_true]
  refine exists_congr fun a => and_congr_right fun ha => ?_
  rw [Function.comp_apply, hpq a ha]

-- While there is room, both stores give out the same id.
theorem nextId (h : F.Mirrors items last t) (hroom : t.rows.length < UInt32.size - 1) :
    ∃ id, MemoryStore.nextId last = .ok id ∧ t.nextId = .ok id.toNat := by
  rw [h.rows, List.length_map, h.count] at hroom
  have hlt : last.toNat + 1 < UInt32.size := by omega
  have hid : MemoryStore.nextId last = .ok (last + 1) := by rw [MemoryStore.nextId, if_pos hlt]
  refine ⟨last + 1, hid, ?_⟩
  have hmax : (last.toNat : Int) < Row.maxInteger := by
    have hsize : UInt32.size = 4294967296 := rfl
    rw [Row.maxInteger]
    omega
  rw [Table.nextId, h.counted, if_pos hmax, MemoryStore.toNat_of_nextId hid]
  rfl

-- An id that has not been given out is in no row.
theorem fresh (h : F.Mirrors items last t) {id : UInt32} (hid : MemoryStore.nextId last = .ok id) :
    ∀ a ∈ items, F.id a ≠ id := by
  intro a ha hsame
  have hle := h.ascends.le_last a ha
  have hlt := MemoryStore.lt_of_nextId hid
  rw [hsame] at hle
  omega

theorem unused (h : F.Mirrors items last t) (hF : F.Exact) {id : UInt32}
    (hid : MemoryStore.nextId last = .ok id) :
    (t.has fun row => decide (F.key row = (id.toNat : Int))) = false := by
  have hnone : ∀ a ∈ items, decide (F.key (F.ofRecord a) = (id.toNat : Int)) = false := by
    intro a ha
    rw [hF.key_ofRecord]
    exact decide_eq_false fun hsame => h.fresh hid a ha (TableStore.column32_injective hsame)
  rw [h.has hnone]
  exact List.any_eq_false.mpr fun _ _ => Bool.false_ne_true

/-- A record with the next id goes to the end of the list, and its row to the end of
    the table. -/
theorem insert (h : F.Mirrors items last t) (hF : F.Exact) {a : α}
    (hid : MemoryStore.nextId last = .ok (F.id a)) (hnext : t.nextId = .ok (F.id a).toNat) :
    F.Mirrors (items ++ [a]) (F.id a) (t.insert F.key (F.ofRecord a)) := by
  have hlt := MemoryStore.lt_of_nextId hid
  have hascends : Ascends F.key t.rows t.last := by
    rw [h.rows, h.counted]
    refine ⟨List.pairwise_map.mpr ?_, ?_⟩
    · simpa only [hF.key_ofRecord] using h.ascends.pairwise
    · intro row hrow
      rcases List.mem_map.mp hrow with ⟨b, hb, rfl⟩
      rw [hF.key_ofRecord]
      exact h.ascends.le_last b hb
  have hkey := hF.key_ofRecord a
  constructor
  · rw [(Table.insert_next F.key t _ hascends hnext hkey).1, h.rows, List.map_append,
      List.map_singleton]
  · rw [Table.insert, hkey, h.counted]
    exact Int.max_eq_right (Int.le_of_lt hlt)
  · rw [List.length_append, List.length_singleton, h.count, MemoryStore.toNat_of_nextId hid]
  · exact h.ascends.append a hlt

/-- Records change as their rows do, ids apart. -/
theorem map (h : F.Mirrors items last t) {f : ρ → ρ} {g : α → α}
    (hf : ∀ a, f (F.ofRecord a) = F.ofRecord (g a)) (hg : ∀ a, F.id (g a) = F.id a) :
    F.Mirrors (items.map g) last { t with rows := t.rows.map f } := by
  refine ⟨?_, h.counted, by rw [List.length_map, h.count], ?_⟩
  · rw [h.rows, List.map_map, List.map_map]
    exact List.map_congr_left fun a _ => hf a
  · exact h.ascends.map g fun a => by rw [hg]

end Mirrors

end Row.Format

/-- No table has used up the ids of records. -/
structure TableStore.Roomy (s : TableStore) : Prop where
  users : s.users.rows.length < UInt32.size - 1
  channels : s.channels.rows.length < UInt32.size - 1
  messages : s.messages.rows.length < UInt32.size - 1

/-- What operations return, one after the other. -/
def StoreRequest.answers {σ : Type} [Gateway σ] (s : σ) :
    List StoreRequest → List (Except Fault StoreAnswer)
  | [] => []
  | call :: rest => (call.run s).1 :: answers (call.run s).2 rest

theorem userFormat_exact : userFormat.Exact := fun _ => rfl

theorem channelFormat_exact : channelFormat.Exact := fun _ => rfl

theorem messageFormat_exact : messageFormat.Exact := fun _ => rfl

/-- The tables hold what a store in memory holds. -/
structure Mirrors (m : MemoryStore) (t : TableStore) : Prop where
  servers : t.servers = m.servers.map fun id : ServerId => (id.toNat : Int)
  users : userFormat.Mirrors m.users m.lastUser t.users
  channels : channelFormat.Mirrors m.channels m.lastChannel t.channels
  messages : messageFormat.Mirrors m.messages m.lastMessage t.messages
  /-- Users are of registered servers, so an unknown server repeats no address. -/
  registered : ∀ user ∈ m.users, user.server ∈ m.servers

namespace Mirrors

theorem empty : Mirrors .empty .empty :=
  ⟨rfl, .empty, .empty, .empty, fun _ huser => absurd huser List.not_mem_nil⟩

variable {m : MemoryStore} {t : TableStore}

-- A server stands in the table exactly if it is registered in memory.
theorem mem_servers (h : Mirrors m t) (server : ServerId) :
    (server.toNat : Int) ∈ t.servers ↔ server ∈ m.servers := by
  rw [h.servers]
  exact List.mem_map_of_injective fun _ _ => TableStore.column16_injective

theorem selectServers (h : Mirrors m t) (id : Option ServerId) :
    t.selectServers id = .ok (m.servers.filter fun server => agrees id server) := by
  rw [TableStore.selectServers, h.servers]
  exact Table.select_written (Row.narrow16_toNat "hosted_servers.id")
    (TableStore.columnIs_eq_agrees _ TableStore.column16_injective id) m.servers

theorem selectUsers (h : Mirrors m t) (filter : UserFilter) :
    t.selectUsers filter = .ok (m.users.filter filter.admits) :=
  h.users.select userFormat_exact (TableStore.userColumns_agree filter)

theorem selectChannels (h : Mirrors m t) (filter : ChannelFilter) :
    t.selectChannels filter = .ok (m.channels.filter filter.admits) :=
  h.channels.select channelFormat_exact (TableStore.channelColumns_agree filter)

theorem selectMessages (h : Mirrors m t) (filter : MessageFilter) :
    t.selectMessages filter = .ok (m.messages.filter filter.admits) :=
  h.messages.select messageFormat_exact (TableStore.messageColumns_agree filter)

-- Server ids are put in the same place as numbers.
theorem insertAscending_map (id : ServerId) (servers : List ServerId) :
    TableStore.insertAscending id.toNat (servers.map fun id : ServerId => (id.toNat : Int)) =
      (MemoryStore.insertAscending id servers).map fun id : ServerId => (id.toNat : Int) := by
  induction servers with
  | nil => rfl
  | cons other rest ih =>
      rw [List.map_cons, TableStore.insertAscending, MemoryStore.insertAscending, ih]
      by_cases hlt : id < other
      · rw [if_pos hlt, if_pos (by exact_mod_cast UInt16.lt_iff_toNat_lt.mp hlt)]
        rfl
      · rw [if_neg hlt, if_neg fun h => hlt (UInt16.lt_iff_toNat_lt.mpr (by exact_mod_cast h))]
        rfl

theorem mem_insertAscending {id server : ServerId} {servers : List ServerId}
    (h : server ∈ servers) : server ∈ MemoryStore.insertAscending id servers := by
  induction servers with
  | nil => exact absurd h List.not_mem_nil
  | cons other rest ih =>
      rw [MemoryStore.insertAscending]
      split
      · exact List.mem_cons_of_mem _ h
      · rcases List.mem_cons.mp h with rfl | h
        · exact List.mem_cons_self
        · exact List.mem_cons_of_mem _ (ih h)

theorem insertServer (h : Mirrors m t) (id : ServerId) :
    (m.insertServer id).1 = (t.insertServer id).1 ∧
      Mirrors (m.insertServer id).2 (t.insertServer id).2 := by
  rw [MemoryStore.insertServer, TableStore.insertServer, TableStore.addServer]
  by_cases hid : id ∈ m.servers
  · rw [if_pos hid, if_pos ((h.mem_servers id).mpr hid)]
    exact ⟨rfl, h⟩
  · rw [if_neg hid, if_neg fun hmem => hid ((h.mem_servers id).mp hmem)]
    refine ⟨rfl, ⟨?_, h.users, h.channels, h.messages, ?_⟩⟩
    · rw [h.servers]
      exact insertAscending_map id m.servers
    · intro user huser
      exact mem_insertAscending (h.registered user huser)

-- The next id is in no row, so what repeats a key repeats an address.
theorem has_joined (h : Mirrors m t) {id : UserId} (hid : MemoryStore.nextId m.lastUser = .ok id)
    (server : ServerId) (ip : Ip) :
    (t.users.has fun other =>
      decide (other.id = (id.toNat : Int)) ||
        decide (other.server = (server.toNat : Int) ∧ other.ip = ip.toText)) =
      m.hasJoined server ip := by
  refine h.users.has fun user huser => ?_
  have hfresh : ¬ (user.id.toNat : Int) = id.toNat :=
    fun hsame => h.users.fresh hid user huser (TableStore.column32_injective hsame)
  have hip : user.ip.toText = ip.toText ↔ user.ip = ip :=
    ⟨Ip.toText_injective, congrArg Ip.toText⟩
  simp only [userFormat, Row.User.ofRecord, hfresh, TableStore.column16_inj, hip, decide_false,
    Bool.false_or, Bool.decide_and]

-- Nobody can have joined a server that is not there.
theorem not_joined (h : Mirrors m t) {server : ServerId} (hserver : server ∉ m.servers) (ip : Ip) :
    ¬ m.hasJoined server ip = true := by
  rw [MemoryStore.hasJoined, List.any_eq_true]
  rintro ⟨user, huser, hsame⟩
  rw [Bool.and_eq_true, decide_eq_true_eq] at hsame
  exact hserver (hsame.1 ▸ h.registered user huser)

theorem insertUser (h : Mirrors m t) (hroom : t.Roomy) (server : ServerId) (ip : Ip)
    (username : Name) :
    (m.insertUser server ip username).1 = (t.insertUser server ip username).1 ∧
      Mirrors (m.insertUser server ip username).2 (t.insertUser server ip username).2 := by
  rcases h.users.nextId hroom.users with ⟨id, hid, hnext⟩
  have hkey := h.has_joined hid server ip
  by_cases hserver : server ∈ m.servers
  · have hrow := (h.mem_servers server).mpr hserver
    by_cases hjoined : m.hasJoined server ip = true
    · have hm : m.insertUser server ip username = (.error (.alreadyJoined ip), m) := by
        rw [MemoryStore.insertUser, if_neg (not_not_intro hserver), if_pos hjoined]
      have ht : t.insertUser server ip username = (.error (.alreadyJoined ip), t) := by
        simp only [TableStore.insertUser, hnext, TableStore.addUser, hkey, hjoined, if_true]
      rw [hm, ht]
      exact ⟨rfl, h⟩
    · let user : UserRecord := { id, server, username, ip }
      have hm : m.insertUser server ip username =
          (.ok user, { m with users := m.users ++ [user], lastUser := id }) := by
        rw [MemoryStore.insertUser, if_neg (not_not_intro hserver), if_neg hjoined, hid]
      let users := t.users.insert userFormat.key (userFormat.ofRecord user)
      have ht : t.insertUser server ip username = (.ok user, { t with users := users }) := by
        simp only [TableStore.insertUser, hnext, TableStore.addUser, hkey, if_neg hjoined,
          if_neg (not_not_intro hrow), Row.narrow32_toNat, Except.map]
        rfl
      rw [hm, ht]
      refine ⟨rfl, ⟨h.servers, h.users.insert userFormat_exact hid hnext, h.channels, h.messages,
        ?_⟩⟩
      intro other hother
      rcases List.mem_append.mp hother with hother | hother
      · exact h.registered other hother
      · rw [List.mem_singleton.mp hother]
        exact hserver
  · -- The database looks for the address first, but must not find it here.
    have hjoined := h.not_joined hserver ip
    have hm : m.insertUser server ip username = (.error (.unknownServer server), m) := by
      rw [MemoryStore.insertUser, if_pos hserver]
    have ht : t.insertUser server ip username = (.error (.unknownServer server), t) := by
      have hrow := mt (h.mem_servers server).mp hserver
      simp only [TableStore.insertUser, hnext, TableStore.addUser, hkey, if_neg hjoined,
        if_pos hrow]
    rw [hm, ht]
    exact ⟨rfl, h⟩

theorem insertChannel (h : Mirrors m t) (hroom : t.Roomy) (name : Name) (server : ServerId) :
    (m.insertChannel name server).1 = (t.insertChannel name server).1 ∧
      Mirrors (m.insertChannel name server).2 (t.insertChannel name server).2 := by
  rcases h.channels.nextId hroom.channels with ⟨id, hid, hnext⟩
  have hkey : (t.channels.has fun other => decide (other.id = (id.toNat : Int))) = false :=
    h.channels.unused channelFormat_exact hid
  by_cases hserver : server ∈ m.servers
  · have hrow := (h.mem_servers server).mpr hserver
    let channel : Channel := { id, name, server }
    have hm : m.insertChannel name server =
        (.ok channel, { m with channels := m.channels ++ [channel], lastChannel := id }) := by
      rw [MemoryStore.insertChannel, if_neg (not_not_intro hserver), hid]
    let channels := t.channels.insert channelFormat.key (channelFormat.ofRecord channel)
    have ht : t.insertChannel name server = (.ok channel, { t with channels := channels }) := by
      simp only [TableStore.insertChannel, hnext, TableStore.addChannel, hkey,
        if_neg (not_not_intro hrow), Row.narrow32_toNat, Except.map]
      rfl
    rw [hm, ht]
    exact ⟨rfl, ⟨h.servers, h.users, h.channels.insert channelFormat_exact hid hnext, h.messages,
      h.registered⟩⟩
  · have hm : m.insertChannel name server = (.error (.unknownServer server), m) := by
      rw [MemoryStore.insertChannel, if_pos hserver]
    have ht : t.insertChannel name server = (.error (.unknownServer server), t) := by
      have hrow := mt (h.mem_servers server).mp hserver
      simp only [TableStore.insertChannel, hnext, TableStore.addChannel, hkey, if_pos hrow]
      rfl
    rw [hm, ht]
    exact ⟨rfl, h⟩

-- Both stores look for the sender by id.
theorem find_sender (h : Mirrors m t) (sender : UserId) :
    (t.users.rows.find? fun user => decide (user.id = (sender.toNat : Int))) =
      (m.users.find? fun user => decide (user.id = sender)).map Row.User.ofRecord := by
  rw [h.users.rows, List.find?_map]
  refine congrArg (fun p => (m.users.find? p).map Row.User.ofRecord) (funext fun user => ?_)
  exact decide_eq_decide.mpr TableStore.column32_inj

theorem has_sender (h : Mirrors m t) (sender : UserId) :
    (t.users.has fun user => decide (user.id = (sender.toNat : Int))) =
      m.users.any fun user => decide (user.id = sender) :=
  h.users.has fun _ _ => decide_eq_decide.mpr TableStore.column32_inj

theorem has_channel (h : Mirrors m t) (channel : ChannelId) :
    (t.channels.has fun c => decide (c.id = (channel.toNat : Int))) =
      m.channels.any fun c => decide (c.id = channel) :=
  h.channels.has fun _ _ => decide_eq_decide.mpr TableStore.column32_inj

theorem insertMessage (h : Mirrors m t) (hroom : t.Roomy) (text : String) (channel : ChannelId)
    (sender : UserId) :
    (m.insertMessage text channel sender).1 = (t.insertMessage text channel sender).1 ∧
      Mirrors (m.insertMessage text channel sender).2 (t.insertMessage text channel sender).2 := by
  rcases h.messages.nextId hroom.messages with ⟨id, hid, hnext⟩
  have hkey : (t.messages.has fun other => decide (other.id = (id.toNat : Int))) = false :=
    h.messages.unused messageFormat_exact hid
  have hfind := h.find_sender sender
  rcases hsender : m.users.find? fun user => decide (user.id = sender) with _ | user
  · rw [hsender] at hfind
    have hm : m.insertMessage text channel sender =
        (.error (.unknownUser sender.toNat.repr), m) := by
      simp only [MemoryStore.insertMessage, hsender]
    have ht : t.insertMessage text channel sender =
        (.error (.unknownUser sender.toNat.repr), t) := by
      simp only [TableStore.insertMessage, hfind, Option.map_none]
    rw [hm, ht]
    exact ⟨rfl, h⟩
  · rw [hsender] at hfind
    have hname : Name.ofText (Row.User.ofRecord user).username = .ok user.username :=
      Name.ofText_text user.username
    have hpresent := h.has_sender sender
    rw [List.any_eq_true.mpr ⟨user, List.mem_of_find?_eq_some hsender, List.find?_some hsender⟩]
      at hpresent
    have hchannel := h.has_channel channel
    by_cases hknown : (m.channels.any fun c => decide (c.id = channel)) = true
    · let receipt : Receipt := ⟨id, user.username⟩
      let message := receipt.message channel sender text
      have hm : m.insertMessage text channel sender =
          (.ok receipt, { m with messages := m.messages ++ [message], lastMessage := id }) := by
        simp only [MemoryStore.insertMessage, hsender, hknown, hid]
        rfl
      let messages := t.messages.insert messageFormat.key (messageFormat.ofRecord message)
      have ht : t.insertMessage text channel sender =
          (.ok receipt, { t with messages := messages }) := by
        simp only [TableStore.insertMessage, hfind, Option.map_some, hname, hnext,
          TableStore.addMessage, hkey, hchannel, hknown, hpresent, Row.narrow32_toNat, Except.map]
        rfl
      rw [hm, ht]
      exact ⟨rfl, ⟨h.servers, h.users, h.channels, h.messages.insert messageFormat_exact hid hnext,
        h.registered⟩⟩
    · have hm : m.insertMessage text channel sender = (.error (.unknownChannel channel), m) := by
        simp only [MemoryStore.insertMessage, hsender, hknown]
        rfl
      have ht : t.insertMessage text channel sender = (.error (.unknownChannel channel), t) := by
        simp only [TableStore.insertMessage, hfind, Option.map_some, hname, hnext,
          TableStore.addMessage, hkey, hchannel, hknown]
        rfl
      rw [hm, ht]
      exact ⟨rfl, h⟩

-- The role is another column, so who goes by the name is the same after the change.
theorem updateRole (h : Mirrors m t) (server : ServerId) (username : String) (role : Role) :
    (m.updateRole server username role).1 = (t.updateRole server username role).1 ∧
      Mirrors (m.updateRole server username role).2 (t.updateRole server username role).2 := by
  have hfound : t.users.has (TableStore.goesBy server username) =
      m.users.any (MemoryStore.goesBy server username) :=
    h.users.has fun user _ => TableStore.goesBy_withKey server username user.id.toNat user
  have hid : ∀ user, userFormat.id (user.withRoleIf server username role) = userFormat.id user := by
    intro user
    rw [UserRecord.withRoleIf]
    split <;> rfl
  have hserver : ∀ user : UserRecord,
      (user.withRoleIf server username role).server = user.server := by
    intro user
    rw [UserRecord.withRoleIf]
    split <;> rfl
  have hrow : ∀ user : UserRecord,
      TableStore.withRoleIf server username role (userFormat.ofRecord user) =
        userFormat.ofRecord (user.withRoleIf server username role) := by
    intro user
    have hchange :=
      TableStore.withRoleIf_ofRecord server username role (userFormat.id user).toNat user
    rwa [userFormat_exact.withKey_id, ← hid user, userFormat_exact.withKey_id] at hchange
  refine ⟨congrArg Except.ok hfound.symm, ⟨h.servers, ?_, h.channels, h.messages, ?_⟩⟩
  · exact h.users.map hrow hid
  · intro user huser
    rcases List.mem_map.mp huser with ⟨before, hbefore, rfl⟩
    exact (hserver before).symm ▸ h.registered before hbefore

/-- An operation returns the same from both stores, and leaves them so that it goes
    on like this. -/
theorem run (h : Mirrors m t) (hroom : t.Roomy) (call : StoreRequest) :
    (call.run m).1 = (call.run t).1 ∧ Mirrors (call.run m).2 (call.run t).2 := by
  cases call with
  | selectServers id =>
      exact ⟨congrArg (Except.map StoreAnswer.servers) (h.selectServers id).symm, h⟩
  | selectUsers filter =>
      exact ⟨congrArg (Except.map StoreAnswer.users) (h.selectUsers filter).symm, h⟩
  | selectChannels filter =>
      exact ⟨congrArg (Except.map StoreAnswer.channels) (h.selectChannels filter).symm, h⟩
  | selectMessages filter =>
      exact ⟨congrArg (Except.map StoreAnswer.messages) (h.selectMessages filter).symm, h⟩
  | insertServer id =>
      exact (h.insertServer id).imp_left (congrArg (Except.map StoreAnswer.server))
  | insertUser server ip username =>
      exact (h.insertUser hroom server ip username).imp_left
        (congrArg (Except.map StoreAnswer.user))
  | insertChannel name server =>
      exact (h.insertChannel hroom name server).imp_left
        (congrArg (Except.map StoreAnswer.channel))
  | insertMessage text channel sender =>
      exact (h.insertMessage hroom text channel sender).imp_left
        (congrArg (Except.map StoreAnswer.receipt))
  | updateRole server username role =>
      exact (h.updateRole server username role).imp_left
        (congrArg (Except.map StoreAnswer.updated))

end Mirrors

namespace TableStore

-- No operation takes a row away, so whoever has room has always had it.
theorem roomy_of_run {s : TableStore} {call : StoreRequest} (h : (call.run s).2.Roomy) :
    s.Roomy := by
  cases call with
  | insertUser server ip username =>
      rcases insertUser_inserts s server ip username with ⟨users, hinserts, hs⟩
      have hrun : (s.insertUser server ip username).2.Roomy := h
      rw [hs] at hrun
      exact ⟨Nat.lt_of_le_of_lt hinserts.length_le hrun.users, hrun.channels, hrun.messages⟩
  | insertChannel name server =>
      rcases insertChannel_inserts s name server with ⟨channels, hinserts, hs⟩
      have hrun : (s.insertChannel name server).2.Roomy := h
      rw [hs] at hrun
      exact ⟨hrun.users, Nat.lt_of_le_of_lt hinserts.length_le hrun.channels, hrun.messages⟩
  | insertMessage text channel sender =>
      rcases insertMessage_inserts s text channel sender with ⟨messages, hinserts, hs⟩
      have hrun : (s.insertMessage text channel sender).2.Roomy := h
      rw [hs] at hrun
      exact ⟨hrun.users, hrun.channels, Nat.lt_of_le_of_lt hinserts.length_le hrun.messages⟩
  | insertServer id =>
      have hrun : (s.insertServer id).2.Roomy := h
      rw [insertServer, addServer] at hrun
      split at hrun
      · exact hrun
      · next hadd =>
        split at hadd
        · simp at hadd
        · rw [← Except.ok.inj hadd] at hrun
          exact ⟨hrun.users, hrun.channels, hrun.messages⟩
  | updateRole server username role =>
      have hrun : (s.updateRole server username role).2.Roomy := h
      refine ⟨?_, hrun.channels, hrun.messages⟩
      have hlength := hrun.users
      rwa [updateRole, List.length_map] at hlength
  | _ => exact h

theorem roomy_of_runAll {s : TableStore} {calls : List StoreRequest}
    (h : (StoreRequest.runAll s calls).Roomy) : s.Roomy := by
  induction calls generalizing s with
  | nil => exact h
  | cons call rest ih => exact roomy_of_run (ih h)

end TableStore

/-- Stores of which one mirrors the other return the same for every history of
    operations at whose end no ids are used up. -/
theorem Mirrors.answers {m : MemoryStore} {t : TableStore} (h : Mirrors m t)
    {calls : List StoreRequest} (hroom : (StoreRequest.runAll t calls).Roomy) :
    StoreRequest.answers m calls = StoreRequest.answers t calls := by
  induction calls generalizing m t with
  | nil => rfl
  | cons call rest ih =>
      rcases h.run (TableStore.roomy_of_runAll hroom) call with ⟨hanswer, hnext⟩
      rw [StoreRequest.answers, StoreRequest.answers, hanswer, ih hnext hroom]

/-- A host cannot tell which store it runs on. Every history of operations returns
    the same from the empty store in memory as from the empty tables, faults
    included, as long as fewer than `UInt32.size - 1` rows of a kind are added. -/
theorem answers_interchangeable (calls : List StoreRequest)
    (hroom : (StoreRequest.runAll TableStore.empty calls).Roomy) :
    StoreRequest.answers MemoryStore.empty calls = StoreRequest.answers TableStore.empty calls :=
  Mirrors.empty.answers hroom

/-- Where the guest of the history below joins from first. -/
def guestAddress : Ip := .v6 ⟨[0x2001, 0xDB8, 0, 0, 0, 0, 0, 1], rfl⟩

/-- Somebody calls too early, joins twice from one address and once from another,
    becomes an admin, and writes to a channel and past it. -/
def eagerGuest : List StoreRequest :=
  [.insertUser 4000 guestAddress ⟨"ann", by decide⟩,
    .insertServer 4000,
    .insertUser 4000 guestAddress ⟨"ann", by decide⟩,
    .insertUser 4000 guestAddress ⟨"eve", by decide⟩,
    .insertUser 4000 (.v4 ⟨10, 0, 0, 3⟩) ⟨"ann", by decide⟩,
    .updateRole 4000 "ann" .admin,
    .insertChannel ⟨"general", by decide⟩ 4000,
    .insertMessage "hello" 1 2,
    .insertMessage "lost" 2 2,
    .selectUsers { role := some .admin, ip := some (.v4 ⟨10, 0, 0, 3⟩) },
    .selectMessages { channel := some 1 }]

theorem eager_guest_answered_alike :
    (StoreRequest.runAll TableStore.empty eagerGuest).Roomy ∧
      StoreRequest.answers MemoryStore.empty eagerGuest =
        [.error (.unknownServer 4000),
          .ok (.server 4000),
          .ok (.user ⟨1, 4000, ⟨"ann", by decide⟩, guestAddress, .member⟩),
          .error (.alreadyJoined guestAddress),
          .ok (.user ⟨2, 4000, ⟨"ann", by decide⟩, .v4 ⟨10, 0, 0, 3⟩, .member⟩),
          .ok (.updated true),
          .ok (.channel ⟨1, ⟨"general", by decide⟩, 4000⟩),
          .ok (.receipt ⟨1, ⟨"ann", by decide⟩⟩),
          .error (.unknownChannel 2),
          .ok (.users [⟨2, 4000, ⟨"ann", by decide⟩, .v4 ⟨10, 0, 0, 3⟩, .admin⟩]),
          .ok (.messages [⟨1, 1, 2, ⟨"ann", by decide⟩, "hello"⟩])] := by
  have hroom : (StoreRequest.runAll TableStore.empty eagerGuest).Roomy :=
    ⟨by decide +kernel, by decide +kernel, by decide +kernel⟩
  refine ⟨hroom, ?_⟩
  rw [answers_interchangeable eagerGuest hroom]
  decide +kernel

end ChatHost
