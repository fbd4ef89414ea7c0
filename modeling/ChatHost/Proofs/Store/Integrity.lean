import ChatHost.Proofs.Store.MemoryLaws

/-!
# Integrity of the Store in Memory

What the store in memory is like, whatever operations it has known.

A database has a schema that watches over keys and references. A store in memory has only its
operations, and each of them checks for itself. What they check together is `Consistent`: ids
ascend, addresses are not repeated, and whatever a record refers to is there.

`Outcome` says once what an operation can report and what store it leaves, with one case for
each success and one for all failures. An insertion fails exactly if the store has no place
for the record (`Takes`), and then nothing has been changed, not even the last id. That the
store stays consistent is seen from these cases alone.

## Main definitions

* `UserFilter.Matches` and its siblings: Agreement with every field of a query that is set.
* `Finds`: Exactly the rows that are wanted, in ascending order.
* `MemoryStore.Consistent`: Ids, addresses and references are in order.
* `MemoryStore.Takes`: A store has a place for a new record.
* `MemoryStore.Outcome`: What an operation reports, and what store it leaves.

## Theorems

* `Outcome.of_run`: Every operation has one of these outcomes.
* `Consistent.step`, `Consistent.run`: Every outcome leaves the store consistent.
* `consistent_and_exact`: Stores that began empty are consistent, and operations do what they
  say.
-/

namespace ChatHost

theorem agrees_iff {α : Type} [DecidableEq α] {wanted : Option α} {value : α} :
    agrees wanted value = true ↔ ∀ w ∈ wanted, value = w := by
  cases wanted with
  | none => exact ⟨fun _ w hw => absurd hw (Option.not_mem_none w), fun _ => rfl⟩
  | some w =>
      rw [agrees, decide_eq_true_eq]
      constructor
      · rintro rfl w' hw'
        exact Option.mem_some.mp hw'
      · intro h
        exact (h w rfl).symm

/-- A user agrees with every field of a query that is set. -/
def UserFilter.Matches (filter : UserFilter) (user : UserRecord) : Prop :=
  (∀ server ∈ filter.server, user.server = server) ∧ (∀ role ∈ filter.role, user.role = role) ∧
    (∀ username ∈ filter.username, user.username.text = username) ∧
    ∀ ip ∈ filter.ip, user.ip = ip

/-- A channel agrees with every field of a query that is set. -/
def ChannelFilter.Matches (filter : ChannelFilter) (channel : Channel) : Prop :=
  (∀ id ∈ filter.id, channel.id = id) ∧ (∀ name ∈ filter.name, channel.name.text = name) ∧
    ∀ server ∈ filter.server, channel.server = server

/-- A message agrees with every field of a query that is set. -/
def MessageFilter.Matches (filter : MessageFilter) (message : Message) : Prop :=
  (∀ id ∈ filter.id, message.id = id) ∧ (∀ text ∈ filter.text, message.text = text) ∧
    (∀ sender ∈ filter.sender, message.sender = sender) ∧
    ∀ channel ∈ filter.channel, message.channel = channel

theorem UserFilter.admits_iff (filter : UserFilter) (user : UserRecord) :
    filter.admits user = true ↔ filter.Matches user := by
  simp only [UserFilter.admits, UserFilter.Matches, Bool.and_eq_true, agrees_iff, and_assoc]

theorem ChannelFilter.admits_iff (filter : ChannelFilter) (channel : Channel) :
    filter.admits channel = true ↔ filter.Matches channel := by
  simp only [ChannelFilter.admits, ChannelFilter.Matches, Bool.and_eq_true, agrees_iff, and_assoc]

theorem MessageFilter.admits_iff (filter : MessageFilter) (message : Message) :
    filter.admits message = true ↔ filter.Matches message := by
  simp only [MessageFilter.admits, MessageFilter.Matches, Bool.and_eq_true, agrees_iff, and_assoc]

/-- Exactly the rows that are wanted, in ascending order of a key. -/
structure Finds {α κ : Type} [LT κ] (key : α → κ) (wanted : α → Prop) (rows found : List α) :
    Prop where
  ascending : found.Pairwise fun a b => key a < key b
  mem_iff : ∀ a, a ∈ found ↔ a ∈ rows ∧ wanted a

theorem Finds.filter {α κ : Type} [LT κ] {key : α → κ} {wanted : α → Prop} {admits : α → Bool}
    {rows : List α} (hrows : rows.Pairwise fun a b => key a < key b)
    (hadmits : ∀ a, admits a = true ↔ wanted a) : Finds key wanted rows (rows.filter admits) where
  ascending := hrows.filter _
  mem_iff a := by rw [List.mem_filter, hadmits]

namespace MemoryStore

/-- Ids ascend and do not pass the last one, no address is repeated on a server, and whatever
    a record refers to is in the store. A message has its sender's name. -/
structure Consistent (s : MemoryStore) : Prop extends Orderly s where
  sorted : s.servers.Pairwise (· < ·)
  apart : s.users.Pairwise fun u v => u.server = v.server → u.ip ≠ v.ip
  hosted : ∀ user ∈ s.users, user.server ∈ s.servers
  owned : ∀ channel ∈ s.channels, channel.server ∈ s.servers
  placed : ∀ message ∈ s.messages, ∃ channel ∈ s.channels, channel.id = message.channel
  signed : ∀ message ∈ s.messages,
    ∃ user ∈ s.users, user.id = message.sender ∧ user.username = message.senderName

theorem consistent_empty : Consistent empty where
  toOrderly := orderly_empty
  sorted := .nil
  apart := .nil
  hosted _ h := absurd h List.not_mem_nil
  owned _ h := absurd h List.not_mem_nil
  placed _ h := absurd h List.not_mem_nil
  signed _ h := absurd h List.not_mem_nil

/-- There is an id after the last. -/
def HasNext (last : UInt32) : Prop := last.toNat + 1 < UInt32.size

/-- A store has a place for what an operation adds, if it adds anything. -/
def Takes (s : MemoryStore) : StoreRequest → Prop
  | .insertServer id => id ∉ s.servers
  | .insertUser server ip _ =>
    server ∈ s.servers ∧ (∀ user ∈ s.users, user.server = server → user.ip ≠ ip) ∧
      HasNext s.lastUser
  | .insertChannel _ server => server ∈ s.servers ∧ HasNext s.lastChannel
  | .insertMessage _ channel sender =>
    (∃ user ∈ s.users, user.id = sender) ∧ (∃ c ∈ s.channels, c.id = channel) ∧
      HasNext s.lastMessage
  | _ => True

/-- What an operation reports, and what store it leaves. -/
inductive Outcome (s : MemoryStore) :
    StoreRequest → Except Fault StoreAnswer → MemoryStore → Prop
  | refused {call : StoreRequest} {fault : Fault} :
      ¬ Takes s call → Outcome s call (.error fault) s
  | servers {id : Option ServerId} {found : List ServerId} :
      Finds (fun server => server) (fun server => ∀ wanted ∈ id, server = wanted)
        s.servers found →
      Outcome s (.selectServers id) (.ok (.servers found)) s
  | users {filter : UserFilter} {found : List UserRecord} :
      Finds UserRecord.id filter.Matches s.users found →
      Outcome s (.selectUsers filter) (.ok (.users found)) s
  | channels {filter : ChannelFilter} {found : List Channel} :
      Finds Channel.id filter.Matches s.channels found →
      Outcome s (.selectChannels filter) (.ok (.channels found)) s
  | messages {filter : MessageFilter} {found : List Message} :
      Finds Message.id filter.Matches s.messages found →
      Outcome s (.selectMessages filter) (.ok (.messages found)) s
  | server {id : ServerId} {ids : List ServerId} :
      Takes s (.insertServer id) → ids.Perm (id :: s.servers) → ids.Pairwise (· < ·) →
      Outcome s (.insertServer id) (.ok (.server id)) { s with servers := ids }
  | user {server : ServerId} {ip : Ip} {username : Name} {user : UserRecord} :
      Takes s (.insertUser server ip username) →
      user = ⟨s.lastUser + 1, server, username, ip, .member⟩ →
      Outcome s (.insertUser server ip username) (.ok (.user user))
        { s with users := s.users ++ [user], lastUser := user.id }
  | channel {name : Name} {server : ServerId} {channel : Channel} :
      Takes s (.insertChannel name server) →
      channel = ⟨s.lastChannel + 1, name, server⟩ →
      Outcome s (.insertChannel name server) (.ok (.channel channel))
        { s with channels := s.channels ++ [channel], lastChannel := channel.id }
  | message {text : String} {channel : ChannelId} {user : UserRecord} {message : Message} :
      Takes s (.insertMessage text channel user.id) → user ∈ s.users →
      message = ⟨s.lastMessage + 1, channel, user.id, user.username, text⟩ →
      Outcome s (.insertMessage text channel user.id)
        (.ok (.receipt ⟨message.id, message.senderName⟩))
        { s with messages := s.messages ++ [message], lastMessage := message.id }
  | updated {server : ServerId} {username : String} {role : Role} {found : Bool} :
      (found = true ↔ ∃ user ∈ s.users, user.server = server ∧ user.username.text = username) →
      Outcome s (.updateRole server username role) (.ok (.updated found))
        { s with
          users := s.users.map fun user =>
            if user.server = server ∧ user.username.text = username then { user with role }
            else user }

-- Either there is an id after the last, or no operation gets one.
theorem nextId_cases (last : UInt32) :
    HasNext last ∧ nextId last = .ok (last + 1) ∨
      ¬ HasNext last ∧ ∃ fault, nextId last = .error fault := by
  by_cases hnext : HasNext last
  · exact Or.inl ⟨hnext, if_pos hnext⟩
  · exact Or.inr ⟨hnext, _, if_neg hnext⟩

theorem HasNext.lt {last : UInt32} (h : HasNext last) :
    (last.toNat : Int) < (last + 1).toNat := lt_of_nextId (if_pos h)

theorem hasJoined_iff (s : MemoryStore) (server : ServerId) (ip : Ip) :
    s.hasJoined server ip = true ↔ ∃ user ∈ s.users, user.server = server ∧ user.ip = ip := by
  simp only [hasJoined, List.any_eq_true, Bool.and_eq_true, decide_eq_true_eq]

theorem goesBy_iff (server : ServerId) (username : String) (user : UserRecord) :
    goesBy server username user = true ↔
      user.server = server ∧ user.username.text = username := by
  rw [goesBy, Bool.and_eq_true, decide_eq_true_eq, decide_eq_true_eq]

theorem insertAscending_perm (id : ServerId) (ids : List ServerId) :
    (insertAscending id ids).Perm (id :: ids) := by
  induction ids with
  | nil => exact .refl _
  | cons other rest ih =>
      rw [insertAscending]
      split
      · exact .refl _
      · exact (ih.cons other).trans (.swap id other rest)

-- A new id finds its place between those that are smaller and those that are greater.
theorem insertAscending_sorted {id : ServerId} {ids : List ServerId} (hid : id ∉ ids)
    (h : ids.Pairwise (· < ·)) : (insertAscending id ids).Pairwise (· < ·) := by
  induction h with
  | nil => exact List.pairwise_singleton _ _
  | @cons other rest hother hrest ih =>
      rw [insertAscending]
      split
      · next hlt =>
        refine .cons ?_ (.cons hother hrest)
        intro later hlater
        rcases List.mem_cons.mp hlater with rfl | hlater
        · exact hlt
        · exact UInt16.lt_trans hlt (hother later hlater)
      · next hge =>
        refine .cons ?_ (ih fun hin => hid (List.mem_cons_of_mem _ hin))
        intro later hlater
        rcases List.mem_cons.mp ((insertAscending_perm id rest).subset hlater) with rfl | hlater
        · exact UInt16.lt_of_le_of_ne (UInt16.not_lt.mp hge)
            fun hsame => hid (hsame ▸ List.mem_cons_self)
        · exact hother later hlater

section Operations

variable {s : MemoryStore}

theorem Consistent.insertServer (h : Consistent s) (id : ServerId) :
    Outcome s (.insertServer id) (answered .server (s.insertServer id)).1
      (answered .server (s.insertServer id)).2 := by
  rw [MemoryStore.insertServer]
  split
  · next hin => exact .refused fun hnew => hnew hin
  · next hnew =>
    exact .server hnew (insertAscending_perm id s.servers)
      (insertAscending_sorted hnew h.sorted)

theorem insertUser_outcome (s : MemoryStore) (server : ServerId) (ip : Ip) (username : Name) :
    Outcome s (.insertUser server ip username)
      (answered .user (s.insertUser server ip username)).1
      (answered .user (s.insertUser server ip username)).2 := by
  rw [insertUser]
  split
  · next hserver => exact .refused fun htakes => hserver htakes.1
  · next hserver =>
    split
    · next hjoined =>
      rcases (hasJoined_iff s server ip).mp hjoined with ⟨user, huser, hsame, hip⟩
      exact .refused fun htakes => htakes.2.1 user huser hsame hip
    · next hjoined =>
      have hfree : ∀ user ∈ s.users, user.server = server → user.ip ≠ ip :=
        fun user huser hsame hip =>
          hjoined ((hasJoined_iff s server ip).mpr ⟨user, huser, hsame, hip⟩)
      rcases nextId_cases s.lastUser with ⟨hnext, hid⟩ | ⟨hnone, fault, hid⟩
      · rw [hid]
        exact .user ⟨not_not.mp hserver, hfree, hnext⟩ rfl
      · rw [hid]
        exact .refused fun htakes => hnone htakes.2.2

theorem insertChannel_outcome (s : MemoryStore) (name : Name) (server : ServerId) :
    Outcome s (.insertChannel name server) (answered .channel (s.insertChannel name server)).1
      (answered .channel (s.insertChannel name server)).2 := by
  rw [insertChannel]
  split
  · next hserver => exact .refused fun htakes => hserver htakes.1
  · next hserver =>
    rcases nextId_cases s.lastChannel with ⟨hnext, hid⟩ | ⟨hnone, fault, hid⟩
    · rw [hid]
      exact .channel ⟨not_not.mp hserver, hnext⟩ rfl
    · rw [hid]
      exact .refused fun htakes => hnone htakes.2

theorem insertMessage_outcome (s : MemoryStore) (text : String) (channel : ChannelId)
    (sender : UserId) :
    Outcome s (.insertMessage text channel sender)
      (answered .receipt (s.insertMessage text channel sender)).1
      (answered .receipt (s.insertMessage text channel sender)).2 := by
  have hplace : (s.channels.any fun c => decide (c.id = channel)) = true ↔
      ∃ c ∈ s.channels, c.id = channel := by
    simp only [List.any_eq_true, decide_eq_true_eq]
  rw [insertMessage]
  split
  · next hnobody =>
    refine .refused ?_
    rintro ⟨⟨user, huser, hid⟩, -⟩
    exact List.find?_eq_none.mp hnobody user huser (decide_eq_true hid)
  · next user hfound =>
    have huser := List.mem_of_find?_eq_some hfound
    have hsender : user.id = sender := by simpa using List.find?_some hfound
    subst hsender
    split
    · next hnowhere =>
      refine .refused fun htakes => ?_
      rw [hplace.mpr htakes.2.1] at hnowhere
      exact Bool.false_ne_true hnowhere
    · next hchannel =>
      rw [Bool.not_eq_true', Bool.not_eq_false] at hchannel
      rcases nextId_cases s.lastMessage with ⟨hnext, hid⟩ | ⟨hnone, fault, hid⟩
      · rw [hid]
        exact .message ⟨⟨user, huser, rfl⟩, hplace.mp hchannel, hnext⟩ huser rfl
      · rw [hid]
        exact .refused fun htakes => hnone htakes.2.2

theorem updateRole_outcome (s : MemoryStore) (server : ServerId) (username : String)
    (role : Role) :
    Outcome s (.updateRole server username role)
      (answered .updated (s.updateRole server username role)).1
      (answered .updated (s.updateRole server username role)).2 := by
  have hfound : s.users.any (goesBy server username) = true ↔
      ∃ user ∈ s.users, user.server = server ∧ user.username.text = username := by
    simp only [List.any_eq_true, goesBy_iff]
  have hupdated : Outcome s (.updateRole server username role) _ _ := .updated hfound
  simp only [← goesBy_iff] at hupdated
  exact hupdated

/-- Every operation on a consistent store has one of the outcomes. -/
theorem Outcome.of_run (h : Consistent s) (call : StoreRequest) :
    Outcome s call (call.run s).1 (call.run s).2 := by
  cases call with
  | selectServers id => exact .servers (.filter h.sorted fun _ => agrees_iff)
  | selectUsers filter => exact .users (.filter (pairwise_lt h.users) filter.admits_iff)
  | selectChannels filter =>
      exact .channels (.filter (pairwise_lt h.channels) filter.admits_iff)
  | selectMessages filter =>
      exact .messages (.filter (pairwise_lt h.messages) filter.admits_iff)
  | insertServer id => exact h.insertServer id
  | insertUser server ip username => exact insertUser_outcome s server ip username
  | insertChannel name server => exact insertChannel_outcome s name server
  | insertMessage text channel sender => exact insertMessage_outcome s text channel sender
  | updateRole server username role => exact updateRole_outcome s server username role

variable {s' : MemoryStore} {call : StoreRequest}

theorem Outcome.of_error {fault : Fault} (h : Outcome s call (.error fault) s') : s' = s := by
  cases h with
  | refused => rfl

/-- Every outcome leaves the store consistent. -/
theorem Consistent.step {result : Except Fault StoreAnswer} (h : Consistent s)
    (hstep : Outcome s call result s') : Consistent s' := by
  cases hstep with
  | refused | servers | users | channels | messages => exact h
  | server _ hids hsorted =>
      have hstay : ∀ server ∈ s.servers, server ∈ _ := fun server hserver =>
        hids.symm.subset (List.mem_cons_of_mem _ hserver)
      exact
        { h with
          sorted := hsorted
          hosted := fun user huser => hstay _ (h.hosted user huser)
          owned := fun channel hchannel => hstay _ (h.owned channel hchannel) }
  | user htakes huser =>
      subst huser
      refine
        { h with
          users := h.users.append _ htakes.2.2.lt
          apart := List.pairwise_append.mpr ⟨h.apart, List.pairwise_singleton _ _, ?_⟩
          hosted := ?_
          signed := ?_ }
      · intro other hother user huser
        rw [List.mem_singleton.mp huser]
        exact htakes.2.1 other hother
      · intro user huser
        rcases List.mem_append.mp huser with huser | huser
        · exact h.hosted user huser
        · rw [List.mem_singleton.mp huser]
          exact htakes.1
      · intro message hmessage
        rcases h.signed message hmessage with ⟨user, huser, hsame⟩
        exact ⟨user, List.mem_append_left _ huser, hsame⟩
  | channel htakes hchannel =>
      subst hchannel
      refine
        { h with
          channels := h.channels.append _ htakes.2.lt
          owned := ?_
          placed := ?_ }
      · intro channel hchannel
        rcases List.mem_append.mp hchannel with hchannel | hchannel
        · exact h.owned channel hchannel
        · rw [List.mem_singleton.mp hchannel]
          exact htakes.1
      · intro message hmessage
        rcases h.placed message hmessage with ⟨channel, hchannel, hsame⟩
        exact ⟨channel, List.mem_append_left _ hchannel, hsame⟩
  | message htakes huser hmessage =>
      subst hmessage
      refine
        { h with
          messages := h.messages.append _ htakes.2.2.lt
          placed := ?_
          signed := ?_ }
      · intro message hmessage
        rcases List.mem_append.mp hmessage with hmessage | hmessage
        · exact h.placed message hmessage
        · rw [List.mem_singleton.mp hmessage]
          exact htakes.2.1
      · intro message hmessage
        rcases List.mem_append.mp hmessage with hmessage | hmessage
        · exact h.signed message hmessage
        · rw [List.mem_singleton.mp hmessage]
          exact ⟨_, huser, rfl, rfl⟩
  | @updated server username role found hfound =>
      -- A new role is all that changes about a user.
      have hkeeps : ∀ user : UserRecord,
          let changed := if user.server = server ∧ user.username.text = username then
            { user with role } else user
          changed.id = user.id ∧ changed.server = user.server ∧ changed.ip = user.ip ∧
            changed.username = user.username := by
        intro user
        by_cases hnamed : user.server = server ∧ user.username.text = username
        · simp only [if_pos hnamed, and_self]
        · simp only [if_neg hnamed, and_self]
      refine
        { h with
          users := h.users.map _ fun user => by rw [(hkeeps user).1]
          apart := ?_
          hosted := ?_
          signed := ?_ }
      · rw [List.pairwise_map]
        simpa only [hkeeps] using h.apart
      · intro changed hchanged
        rcases List.mem_map.mp hchanged with ⟨user, huser, rfl⟩
        rw [(hkeeps user).2.1]
        exact h.hosted user huser
      · intro message hmessage
        rcases h.signed message hmessage with ⟨user, huser, hid, hname⟩
        exact ⟨_, List.mem_map_of_mem huser, (hkeeps user).1.trans hid,
          (hkeeps user).2.2.2.trans hname⟩

/-- Whatever operations follow on one another, the store stays consistent. -/
theorem Consistent.run (h : Consistent s) (calls : List StoreRequest) :
    Consistent (StoreRequest.runAll s calls) := by
  induction calls generalizing s with
  | nil => exact h
  | cons call rest ih => exact ih (h.step (.of_run h call))

end Operations

/-- A store that began empty is consistent, and the next operation does what it says. What
    fails leaves the store as it is. -/
theorem consistent_and_exact (calls : List StoreRequest) (call : StoreRequest) :
    let s := StoreRequest.runAll empty calls
    Consistent s ∧ Outcome s call (call.run s).1 (call.run s).2 ∧
      ∀ fault, (call.run s).1 = .error fault → (call.run s).2 = s := by
  intro s
  have hs : Consistent s := consistent_empty.run calls
  have houtcome := Outcome.of_run hs call
  refine ⟨hs, houtcome, fun fault hfault => ?_⟩
  rw [hfault] at houtcome
  exact houtcome.of_error

-- When every id has been given out, nobody joins any more, and nothing changes.
example :
    let s : MemoryStore := { servers := [7001], lastUser := 4294967295 }
    (StoreRequest.insertUser 7001 (.v4 ⟨10, 0, 0, 1⟩) ⟨"alice", by decide⟩).run s =
      (.error (.storage "id space exhausted"), s) := rfl

end MemoryStore

end ChatHost
