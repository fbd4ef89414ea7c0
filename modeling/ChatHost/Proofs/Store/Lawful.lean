import ChatHost.Store.Memory
import Mathlib.Data.List.Nodup

/-!
# Laws of Stores

What a server may rely on in a store, whichever kind of store it is.

The operations of `Gateway` say what can be asked of a store; nothing in their
types says that what was put in can be got out, or that a failed operation left
the records alone. `LawfulGateway` says so, by way of a view: every store shows
the records that it holds (`records`), and each operation is described by what
it does to that view. Whoever reasons about a server reasons about the view and
never looks into a store.

The laws hold of a store that gateway operations have kept, and not of every
value of its type: a database may hold rows that no operation ever writes. The
predicate `Orderly` marks the stores for which the laws hold. It belongs to the
kind of store, is true of the empty store and is kept by every operation, so a
caller who only goes through the gateway never has to establish it again.

A failed operation leaves the view as it was. It may still leave something
behind that is no record, and the view does not show that.

`Known` is the fact about users that presence rests on. A store gives an id to
one user only, so an id that is known at one address is known at no other; and
since users are never taken out of a store, what is known stays known. `Grows`
collects what every change of a store has in common.

## Main definitions

* `Records`: The records that a store holds.
* `LawfulGateway`: A store whose operations do what they say to its records.
* `inChannel`: The messages of one channel.
* `Ascends`: Items in ascending order of ids that were given out.
* `Known`: A user of a server whom a store knows by id and address.
* `Hosts`: A channel of a server, by its id.
* `Grows`: A store has been changed by gateway operations.

## Theorems

* `known_ip_unique`: An id is known at one address only.
* `grows_insertUser` and its siblings: Every operation makes a store grow.
* `StoreRequest.run_hosts`: Every operation keeps the channels of a server.
* `StoreRequest.run_grows`: Every operation as data makes a store grow.
-/

namespace ChatHost

/-- The records that a store holds, each kind in ascending order of ids. -/
structure Records where
  users : List UserRecord
  channels : List Channel
  messages : List Message

/-- A user with a new role, if they are the one of a name on a server. -/
def UserRecord.withRoleIf (server : ServerId) (username : String) (role : Role)
    (user : UserRecord) : UserRecord :=
  if MemoryStore.goesBy server username user then { user with role := role } else user

/-- The messages of one channel. -/
def inChannel (channel : ChannelId) (messages : List Message) : List Message :=
  messages.filter fun message => decide (message.channel = channel)

-- What a query for one channel wants.
theorem admits_channel (channel : ChannelId) (messages : List Message) :
    messages.filter (MessageFilter.admits { channel := some channel }) =
      inChannel channel messages := by
  unfold inChannel
  refine List.filter_congr ?_
  intro message _
  simp only [MessageFilter.admits, agrees, Bool.true_and, decide_eq_decide]
  exact eq_comm

/-- Items in ascending order of a key, none of which passes the last key that was
    given out. Both kinds of store keep their lists so. -/
structure Ascends {α : Type} (key : α → Int) (items : List α) (last : Int) : Prop where
  pairwise : items.Pairwise fun a b => key a < key b
  le_last : ∀ a ∈ items, key a ≤ last

namespace Ascends

variable {α : Type} {key : α → Int}

theorem nil (last : Int) : Ascends key [] last :=
  ⟨List.Pairwise.nil, fun _ ha => absurd ha (by simp)⟩

-- An item with a new key goes to the end.
theorem append {items : List α} {last : Int} (h : Ascends key items last) (a : α)
    (hkey : last < key a) : Ascends key (items ++ [a]) (key a) where
  pairwise := by
    refine List.pairwise_append.mpr ⟨h.pairwise, List.pairwise_singleton _ _, ?_⟩
    intro b hb c hc
    rw [List.mem_singleton.mp hc]
    exact Int.lt_of_le_of_lt (h.le_last b hb) hkey
  le_last b hb := by
    rcases List.mem_append.mp hb with hb | hb
    · exact Int.le_of_lt (Int.lt_of_le_of_lt (h.le_last b hb) hkey)
    · exact Int.le_of_eq (congrArg key (List.mem_singleton.mp hb))

-- Changing items without touching their keys keeps the order.
theorem map {items : List α} {last : Int} (h : Ascends key items last) (f : α → α)
    (hf : ∀ a, key (f a) = key a) : Ascends key (items.map f) last where
  pairwise := by
    rw [List.pairwise_map]
    simpa only [hf] using h.pairwise
  le_last b hb := by
    rcases List.mem_map.mp hb with ⟨a, ha, rfl⟩
    rw [hf]
    exact h.le_last a ha

end Ascends

namespace Breakable

variable {σ : Type}

-- A query that succeeds has asked the store.
theorem query_ok {α : Type} {b : Breakable σ} {method : StoreMethod}
    {ask : σ → Except Fault α} {a : α} (h : b.query method ask = .ok a) :
    ask b.store = .ok a := by
  rw [query] at h
  split at h
  · simp at h
  · exact h

-- A change that succeeds has reached the store.
theorem change_ok {α : Type} {b b' : Breakable σ} {method : StoreMethod}
    {act : σ → Except Fault α × σ} {a : α} (h : b.change method act = (.ok a, b')) :
    act b.store = (.ok a, b'.store) := by
  rw [change] at h
  split at h
  · simp at h
  · rcases hact : act b.store with ⟨result, store⟩
    simp only [hact, Prod.mk.injEq] at h
    rcases h with ⟨rfl, rfl⟩
    rfl

-- A change that fails has failed in the store, or has not reached it.
theorem change_error {α : Type} {b b' : Breakable σ} {method : StoreMethod}
    {act : σ → Except Fault α × σ} {fault : Fault} (h : b.change method act = (.error fault, b')) :
    act b.store = (.error fault, b'.store) ∨ b'.store = b.store := by
  rw [change] at h
  split at h
  · simp only [Prod.mk.injEq] at h
    exact Or.inr (by rw [h.2])
  · rcases hact : act b.store with ⟨result, store⟩
    simp only [hact, Prod.mk.injEq] at h
    rcases h with ⟨rfl, rfl⟩
    exact Or.inl rfl

end Breakable

/-- A store whose operations do what they say to the records that it shows. -/
class LawfulGateway (σ : Type) [Gateway σ] where
  /-- The records that a store holds. -/
  records : σ → Records
  /-- Whether a store is as gateway operations keep it. -/
  Orderly : σ → Prop
  users_ascend {s : σ} : Orderly s → (records s).users.Pairwise fun u v => u.id < v.id
  channels_ascend {s : σ} : Orderly s → (records s).channels.Pairwise fun c d => c.id < d.id
  messages_ascend {s : σ} : Orderly s → (records s).messages.Pairwise fun m n => m.id < n.id
  selectUsers_ok {s : σ} {filter : UserFilter} {found : List UserRecord} :
    Orderly s → Gateway.selectUsers s filter = .ok found →
      found = (records s).users.filter filter.admits
  selectChannels_ok {s : σ} {filter : ChannelFilter} {found : List Channel} :
    Orderly s → Gateway.selectChannels s filter = .ok found →
      found = (records s).channels.filter filter.admits
  selectMessages_ok {s : σ} {filter : MessageFilter} {found : List Message} :
    Orderly s → Gateway.selectMessages s filter = .ok found →
      found = (records s).messages.filter filter.admits
  insertServer_keeps {s s' : σ} {id : ServerId} {result : Except Fault ServerId} :
    Orderly s → Gateway.insertServer s id = (result, s') → Orderly s' ∧ records s' = records s
  insertUser_ok {s s' : σ} {server : ServerId} {ip : Ip} {username : Name} {user : UserRecord} :
    Orderly s → Gateway.insertUser s server ip username = (.ok user, s') →
      Orderly s' ∧ user = { id := user.id, server, username, ip } ∧
        (∀ u ∈ (records s).users, u.server = server → u.ip ≠ ip) ∧
        records s' = { records s with users := (records s).users ++ [user] }
  insertUser_error {s s' : σ} {server : ServerId} {ip : Ip} {username : Name} {fault : Fault} :
    Orderly s → Gateway.insertUser s server ip username = (.error fault, s') →
      Orderly s' ∧ records s' = records s
  insertChannel_ok {s s' : σ} {name : Name} {server : ServerId} {channel : Channel} :
    Orderly s → Gateway.insertChannel s name server = (.ok channel, s') →
      Orderly s' ∧ channel = { id := channel.id, name, server } ∧
        records s' = { records s with channels := (records s).channels ++ [channel] }
  insertChannel_error {s s' : σ} {name : Name} {server : ServerId} {fault : Fault} :
    Orderly s → Gateway.insertChannel s name server = (.error fault, s') →
      Orderly s' ∧ records s' = records s
  insertMessage_ok {s s' : σ} {text : String} {channel : ChannelId} {sender : UserId}
      {receipt : Receipt} :
    Orderly s → Gateway.insertMessage s text channel sender = (.ok receipt, s') →
      Orderly s' ∧ records s' = { records s with
        messages := (records s).messages ++ [receipt.message channel sender text] }
  insertMessage_error {s s' : σ} {text : String} {channel : ChannelId} {sender : UserId}
      {fault : Fault} :
    Orderly s → Gateway.insertMessage s text channel sender = (.error fault, s') →
      Orderly s' ∧ records s' = records s
  updateRole_ok {s s' : σ} {server : ServerId} {username : String} {role : Role}
      {found : Bool} :
    Orderly s → Gateway.updateRole s server username role = (.ok found, s') →
      Orderly s' ∧ records s' = { records s with
        users := (records s).users.map (UserRecord.withRoleIf server username role) }
  updateRole_error {s s' : σ} {server : ServerId} {username : String} {role : Role}
      {fault : Fault} :
    Orderly s → Gateway.updateRole s server username role = (.error fault, s') →
      Orderly s' ∧ records s' = records s

open LawfulGateway

variable {σ : Type} [Gateway σ] [LawfulGateway σ]

/-- A store knows a user of a server by this id and this address. -/
def Known (s : σ) (server : ServerId) (id : UserId) (ip : Ip) : Prop :=
  ∃ user ∈ (records s).users, user.server = server ∧ user.id = id ∧ user.ip = ip

/-- An id is known at one address only. -/
theorem known_ip_unique {s : σ} (h : Orderly s) {server server' : ServerId} {id : UserId}
    {ip ip' : Ip} (hk : Known s server id ip) (hk' : Known s server' id ip') : ip = ip' := by
  rcases hk with ⟨u, hu, -, hid, rfl⟩
  rcases hk' with ⟨v, hv, -, hid', rfl⟩
  have hnodup : ((records s).users.map (·.id)).Nodup :=
    (List.pairwise_map.mpr (users_ascend h)).nodup
  rw [List.inj_on_of_nodup_map hnodup hu hv (hid.trans hid'.symm)]

/-- What every change of a store by gateway operations has in common: it stays
    orderly, users stay known, and messages are only added. -/
structure Grows (s s' : σ) : Prop where
  orderly : Orderly s'
  known : ∀ {server id ip}, Known s server id ip → Known s' server id ip
  messages : ∃ new, (records s').messages = (records s).messages ++ new

namespace Grows

theorem of_records_eq {s s' : σ} (h : Orderly s' ∧ records s' = records s) : Grows s s' where
  orderly := h.1
  known hk := by
    rw [Known, h.2]
    exact hk
  messages := ⟨[], by rw [h.2, List.append_nil]⟩

theorem refl {s : σ} (h : Orderly s) : Grows s s := of_records_eq ⟨h, rfl⟩

theorem trans {a b c : σ} (hab : Grows a b) (hbc : Grows b c) : Grows a c where
  orderly := hbc.orderly
  known hk := hbc.known (hab.known hk)
  messages := by
    rcases hab.messages with ⟨new, hnew⟩
    rcases hbc.messages with ⟨newer, hnewer⟩
    exact ⟨new ++ newer, by rw [hnewer, hnew, List.append_assoc]⟩

end Grows

theorem grows_insertServer {s : σ} (h : Orderly s) (id : ServerId) :
    Grows s (Gateway.insertServer s id).2 :=
  Grows.of_records_eq (insertServer_keeps h rfl)

theorem grows_insertUser {s : σ} (h : Orderly s) (server : ServerId) (ip : Ip)
    (username : Name) : Grows s (Gateway.insertUser s server ip username).2 := by
  rcases hresult : Gateway.insertUser s server ip username with ⟨fault | user, s'⟩
  · exact Grows.of_records_eq (insertUser_error h hresult)
  · rcases insertUser_ok h hresult with ⟨horderly, -, -, hrecords⟩
    refine ⟨horderly, fun ⟨u, hu, hserver⟩ => ⟨u, ?_, hserver⟩, [], ?_⟩
    · rw [hrecords]
      exact List.mem_append_left _ hu
    · rw [hrecords, List.append_nil]

theorem grows_insertChannel {s : σ} (h : Orderly s) (name : Name) (server : ServerId) :
    Grows s (Gateway.insertChannel s name server).2 := by
  rcases hresult : Gateway.insertChannel s name server with ⟨fault | channel, s'⟩
  · exact Grows.of_records_eq (insertChannel_error h hresult)
  · rcases insertChannel_ok h hresult with ⟨horderly, -, hrecords⟩
    refine ⟨horderly, fun hk => ?_, [], ?_⟩
    · rw [Known, hrecords]
      exact hk
    · rw [hrecords, List.append_nil]

theorem grows_insertMessage {s : σ} (h : Orderly s) (text : String) (channel : ChannelId)
    (sender : UserId) : Grows s (Gateway.insertMessage s text channel sender).2 := by
  rcases hresult : Gateway.insertMessage s text channel sender with ⟨fault | receipt, s'⟩
  · exact Grows.of_records_eq (insertMessage_error h hresult)
  · rcases insertMessage_ok h hresult with ⟨horderly, hrecords⟩
    refine ⟨horderly, fun hk => ?_, [receipt.message channel sender text], ?_⟩
    · rw [Known, hrecords]
      exact hk
    · rw [hrecords]

theorem grows_updateRole {s : σ} (h : Orderly s) (server : ServerId) (username : String)
    (role : Role) : Grows s (Gateway.updateRole s server username role).2 := by
  rcases hresult : Gateway.updateRole s server username role with ⟨fault | found, s'⟩
  · exact Grows.of_records_eq (updateRole_error h hresult)
  · rcases updateRole_ok h hresult with ⟨horderly, hrecords⟩
    -- A role is no part of what a store knows a user by.
    refine ⟨horderly, fun ⟨u, hu, hserver, hid, hip⟩ =>
      ⟨u.withRoleIf server username role, ?_, ?_⟩, [], ?_⟩
    · rw [hrecords]
      exact List.mem_map_of_mem hu
    · rw [UserRecord.withRoleIf]
      split <;> exact ⟨hserver, hid, hip⟩
    · rw [hrecords, List.append_nil]

theorem messages_updateRole {s : σ} (h : Orderly s) (server : ServerId) (username : String)
    (role : Role) :
    (records (Gateway.updateRole s server username role).2).messages = (records s).messages := by
  rcases hresult : Gateway.updateRole s server username role with ⟨fault | found, s'⟩
  · rw [(updateRole_error h hresult).2]
  · rw [(updateRole_ok h hresult).2]

-- Channels are added at the end, and only by the operation that adds one.
theorem channels_insertChannel {s : σ} (h : Orderly s) (name : Name) (server : ServerId) :
    ∃ new, (records (Gateway.insertChannel s name server).2).channels =
      (records s).channels ++ new := by
  rcases hresult : Gateway.insertChannel s name server with ⟨fault | channel, s'⟩
  · exact ⟨[], by rw [(insertChannel_error h hresult).2, List.append_nil]⟩
  · exact ⟨[channel], by rw [(insertChannel_ok h hresult).2.2]⟩

theorem channels_insertUser {s : σ} (h : Orderly s) (server : ServerId) (ip : Ip)
    (username : Name) :
    (records (Gateway.insertUser s server ip username).2).channels = (records s).channels := by
  rcases hresult : Gateway.insertUser s server ip username with ⟨fault | user, s'⟩
  · rw [(insertUser_error h hresult).2]
  · rw [(insertUser_ok h hresult).2.2.2]

-- A new record has an id above all others.
theorem lt_insertUser {s s' : σ} (h : Orderly s) {server : ServerId} {ip : Ip} {username : Name}
    {user : UserRecord} (hok : Gateway.insertUser s server ip username = (.ok user, s')) :
    ∀ other ∈ (records s).users, other.id < user.id := by
  rcases insertUser_ok h hok with ⟨horderly, -, -, hrecords⟩
  have hascend := users_ascend horderly
  rw [hrecords] at hascend
  intro other hother
  exact (List.pairwise_append.mp hascend).2.2 other hother user (List.mem_singleton.mpr rfl)

theorem lt_insertChannel {s s' : σ} (h : Orderly s) {name : Name} {server : ServerId}
    {channel : Channel} (hok : Gateway.insertChannel s name server = (.ok channel, s')) :
    ∀ other ∈ (records s).channels, other.id < channel.id := by
  rcases insertChannel_ok h hok with ⟨horderly, -, hrecords⟩
  have hascend := channels_ascend horderly
  rw [hrecords] at hascend
  intro other hother
  exact (List.pairwise_append.mp hascend).2.2 other hother channel (List.mem_singleton.mpr rfl)

theorem channels_insertMessage {s : σ} (h : Orderly s) (text : String) (channel : ChannelId)
    (sender : UserId) :
    (records (Gateway.insertMessage s text channel sender).2).channels =
      (records s).channels := by
  rcases hresult : Gateway.insertMessage s text channel sender with ⟨fault | receipt, s'⟩
  · rw [(insertMessage_error h hresult).2]
  · rw [(insertMessage_ok h hresult).2]

theorem channels_updateRole {s : σ} (h : Orderly s) (server : ServerId) (username : String)
    (role : Role) :
    (records (Gateway.updateRole s server username role).2).channels = (records s).channels := by
  rcases hresult : Gateway.updateRole s server username role with ⟨fault | found, s'⟩
  · rw [(updateRole_error h hresult).2]
  · rw [(updateRole_ok h hresult).2]

/-- A channel of a server, by its id. -/
def Hosts (s : σ) (server : ServerId) (channel : ChannelId) : Prop :=
  ∃ c ∈ (records s).channels, c.id = channel ∧ c.server = server

/-- A channel of a server stays one, whatever operation is done. -/
theorem StoreRequest.run_hosts {s : σ} (h : Orderly s) (request : StoreRequest)
    {server : ServerId} {channel : ChannelId} (hhosts : Hosts s server channel) :
    Hosts (request.run s).2 server channel := by
  have hkept : ∀ s' : σ, (∃ new, (records s').channels = (records s).channels ++ new) →
      Hosts s' server channel := by
    rintro s' ⟨new, hnew⟩
    rcases hhosts with ⟨c, hc, hsame⟩
    refine ⟨c, ?_, hsame⟩
    rw [hnew]
    exact List.mem_append_left _ hc
  have hsame : ∀ s' : σ, (records s').channels = (records s).channels →
      Hosts s' server channel := by
    intro s' hs'
    exact hkept s' ⟨[], by rw [hs', List.append_nil]⟩
  cases request with
  | selectServers id => exact hhosts
  | selectUsers filter => exact hhosts
  | selectChannels filter => exact hhosts
  | selectMessages filter => exact hhosts
  | insertServer id =>
      refine hsame _ ?_
      rw [StoreRequest.run, answered, (insertServer_keeps h (Prod.eta _).symm).2]
  | insertUser server ip username => exact hsame _ (channels_insertUser h server ip username)
  | insertChannel name server => exact hkept _ (channels_insertChannel h name server)
  | insertMessage text channel sender =>
      exact hsame _ (channels_insertMessage h text channel sender)
  | updateRole server username role =>
      exact hsame _ (channels_updateRole h server username role)

/-- Every operation makes a store grow, or leaves it as it is. -/
theorem StoreRequest.run_grows {s : σ} (h : Orderly s) (request : StoreRequest) :
    Grows s (request.run s).2 := by
  cases request with
  | selectServers id => exact Grows.refl h
  | selectUsers filter => exact Grows.refl h
  | selectChannels filter => exact Grows.refl h
  | selectMessages filter => exact Grows.refl h
  | insertServer id => exact grows_insertServer h id
  | insertUser server ip username => exact grows_insertUser h server ip username
  | insertChannel name server => exact grows_insertChannel h name server
  | insertMessage text channel sender => exact grows_insertMessage h text channel sender
  | updateRole server username role => exact grows_updateRole h server username role

namespace Breakable

-- A change keeps what both the store keeps and doing nothing keeps.
theorem change_keeps {α : Type} {b b' : Breakable σ} {method : StoreMethod}
    {act : σ → Except Fault α × σ} {result : Except Fault α}
    (hb : Orderly b.store)
    (hact : ∀ {s' : σ}, act b.store = (result, s') → Orderly s' ∧ records s' = records b.store)
    (h : b.change method act = (result, b')) :
    Orderly b'.store ∧ records b'.store = records b.store := by
  cases result with
  | ok a => exact hact (change_ok h)
  | error fault =>
      -- The store refused, or was never reached.
      rcases change_error h with h | h
      · exact hact h
      · rw [h]
        exact ⟨hb, rfl⟩

end Breakable

/-- A store that sometimes fails shows the records of the store behind it: an
    operation that fails does not reach it. -/
instance : LawfulGateway (Breakable σ) where
  records b := records b.store
  Orderly b := Orderly b.store
  users_ascend := users_ascend
  channels_ascend := channels_ascend
  messages_ascend := messages_ascend
  selectUsers_ok h hfound := selectUsers_ok h (Breakable.query_ok hfound)
  selectChannels_ok h hfound := selectChannels_ok h (Breakable.query_ok hfound)
  selectMessages_ok h hfound := selectMessages_ok h (Breakable.query_ok hfound)
  insertServer_keeps h := Breakable.change_keeps h (insertServer_keeps h)
  insertUser_ok h hresult := insertUser_ok h (Breakable.change_ok hresult)
  insertUser_error h := Breakable.change_keeps h (insertUser_error h)
  insertChannel_ok h hresult := insertChannel_ok h (Breakable.change_ok hresult)
  insertChannel_error h := Breakable.change_keeps h (insertChannel_error h)
  insertMessage_ok h hresult := insertMessage_ok h (Breakable.change_ok hresult)
  insertMessage_error h := Breakable.change_keeps h (insertMessage_error h)
  updateRole_ok h hresult := updateRole_ok h (Breakable.change_ok hresult)
  updateRole_error h := Breakable.change_keeps h (updateRole_error h)

end ChatHost
