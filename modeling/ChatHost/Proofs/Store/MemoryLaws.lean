import ChatHost.Proofs.Store.Lawful

/-!
# Laws of the Store in Memory

The store in memory keeps its records as they are, so the view of it is the
store itself. What has to be shown is that its lists ascend: every new record
takes the id after the last, and so belongs at the end.

## Main definitions

* `MemoryStore.Orderly`: Lists ascend and do not pass the last id given out.

## Theorems

* `MemoryStore.orderly_empty`: The store without records is orderly.
-/

namespace ChatHost

namespace MemoryStore

/-- Every list ascends, and no id passes the last one that was given out. -/
structure Orderly (s : MemoryStore) : Prop where
  users : Ascends (fun u : UserRecord => u.id.toNat) s.users s.lastUser.toNat
  channels : Ascends (fun c : Channel => c.id.toNat) s.channels s.lastChannel.toNat
  messages : Ascends (fun m : Message => m.id.toNat) s.messages s.lastMessage.toNat

theorem orderly_empty : Orderly empty := ⟨.nil _, .nil _, .nil _⟩

-- A new id is past the last one.
theorem lt_of_nextId {last id : UInt32} (h : nextId last = .ok id) :
    (last.toNat : Int) < id.toNat := by
  rw [nextId] at h
  split at h
  · next hlt =>
    simp only [Except.ok.injEq] at h
    rw [← h, UInt32.toNat_add]
    simp only [UInt32.size] at hlt
    simp only [UInt32.toNat_one]
    omega
  · simp at h

-- In a list that ascends by numbers, ids ascend as such.
theorem pairwise_lt {α : Type} {id : α → UInt32} {items : List α} {last : Int}
    (h : Ascends (fun a => ((id a).toNat : Int)) items last) :
    items.Pairwise fun a b => id a < id b := by
  refine h.pairwise.imp ?_
  intro a b hab
  rw [UInt32.lt_iff_toNat_lt]
  omega

theorem insertUser_ok {s s' : MemoryStore} {server : ServerId} {ip : Ip} {username : Name}
    {user : UserRecord} (h : Orderly s) (hok : s.insertUser server ip username = (.ok user, s')) :
    Orderly s' ∧ user = { id := user.id, server, username, ip } ∧
      (∀ u ∈ s.users, u.server = server → u.ip ≠ ip) ∧
      s'.users = s.users ++ [user] ∧ s'.channels = s.channels ∧ s'.messages = s.messages := by
  rw [insertUser] at hok
  -- The server must exist, the address must be free, and there must be an id left.
  split at hok
  · simp at hok
  · split at hok
    · simp at hok
    · next hjoined =>
      split at hok
      · simp at hok
      · next id hid =>
        simp only [Prod.mk.injEq, Except.ok.injEq] at hok
        rcases hok with ⟨rfl, rfl⟩
        refine ⟨⟨h.users.append _ (lt_of_nextId hid), h.channels, h.messages⟩, rfl, ?_, rfl,
          rfl, rfl⟩
        intro u hu hserver hip
        apply hjoined
        rw [hasJoined, List.any_eq_true]
        exact ⟨u, hu, by simp [hserver, hip]⟩

theorem insertUser_error {s s' : MemoryStore} {server : ServerId} {ip : Ip} {username : Name}
    {fault : Fault} (h : s.insertUser server ip username = (.error fault, s')) : s' = s := by
  rw [insertUser] at h
  split at h
  · simp_all
  · split at h
    · simp_all
    · split at h <;> simp_all

theorem insertChannel_ok {s s' : MemoryStore} {name : Name} {server : ServerId}
    {channel : Channel} (h : Orderly s) (hok : s.insertChannel name server = (.ok channel, s')) :
    Orderly s' ∧ channel = { id := channel.id, name, server } ∧
      s'.users = s.users ∧ s'.channels = s.channels ++ [channel] ∧ s'.messages = s.messages := by
  rw [insertChannel] at hok
  split at hok
  · simp at hok
  · split at hok
    · simp at hok
    · next id hid =>
      simp only [Prod.mk.injEq, Except.ok.injEq] at hok
      rcases hok with ⟨rfl, rfl⟩
      exact ⟨⟨h.users, h.channels.append _ (lt_of_nextId hid), h.messages⟩, rfl, rfl, rfl, rfl⟩

theorem insertChannel_error {s s' : MemoryStore} {name : Name} {server : ServerId}
    {fault : Fault} (h : s.insertChannel name server = (.error fault, s')) : s' = s := by
  rw [insertChannel] at h
  split at h
  · simp_all
  · split at h <;> simp_all

theorem insertMessage_ok {s s' : MemoryStore} {text : String} {channel : ChannelId}
    {sender : UserId} {receipt : Receipt} (h : Orderly s)
    (hok : s.insertMessage text channel sender = (.ok receipt, s')) :
    Orderly s' ∧ s'.users = s.users ∧ s'.channels = s.channels ∧
      s'.messages = s.messages ++ [receipt.message channel sender text] := by
  rw [insertMessage] at hok
  split at hok
  · simp at hok
  · split at hok
    · simp at hok
    · split at hok
      · simp at hok
      · next id hid =>
        simp only [Prod.mk.injEq, Except.ok.injEq] at hok
        rcases hok with ⟨rfl, rfl⟩
        exact ⟨⟨h.users, h.channels, h.messages.append _ (lt_of_nextId hid)⟩, rfl, rfl, rfl⟩

theorem insertMessage_error {s s' : MemoryStore} {text : String} {channel : ChannelId}
    {sender : UserId} {fault : Fault}
    (h : s.insertMessage text channel sender = (.error fault, s')) : s' = s := by
  rw [insertMessage] at h
  split at h
  · simp_all
  · split at h
    · simp_all
    · split at h <;> simp_all

/-- The records of a store in memory are what it consists of. -/
def records (s : MemoryStore) : Records := ⟨s.users, s.channels, s.messages⟩

instance : LawfulGateway MemoryStore where
  records := records
  Orderly := Orderly
  users_ascend h := pairwise_lt h.users
  channels_ascend h := pairwise_lt h.channels
  messages_ascend h := pairwise_lt h.messages
  selectUsers_ok _ hfound := (Except.ok.inj hfound).symm
  selectChannels_ok _ hfound := (Except.ok.inj hfound).symm
  selectMessages_ok _ hfound := (Except.ok.inj hfound).symm
  insertServer_keeps {s s' id result} h hresult := by
    change s.insertServer id = _ at hresult
    rw [insertServer] at hresult
    split at hresult
    · rcases Prod.mk.inj hresult with ⟨-, rfl⟩
      exact ⟨h, rfl⟩
    · rcases Prod.mk.inj hresult with ⟨-, rfl⟩
      exact ⟨⟨h.users, h.channels, h.messages⟩, rfl⟩
  insertUser_ok h hok := by
    rcases insertUser_ok h hok with ⟨horderly, huser, hnew, husers, hchannels, hmessages⟩
    exact ⟨horderly, huser, hnew, by simp only [records, husers, hchannels, hmessages]⟩
  insertUser_error h herror := by
    rw [insertUser_error herror]
    exact ⟨h, rfl⟩
  insertChannel_ok h hok := by
    rcases insertChannel_ok h hok with ⟨horderly, hchannel, husers, hchannels, hmessages⟩
    exact ⟨horderly, hchannel, by simp only [records, husers, hchannels, hmessages]⟩
  insertChannel_error h herror := by
    rw [insertChannel_error herror]
    exact ⟨h, rfl⟩
  insertMessage_ok h hok := by
    rcases insertMessage_ok h hok with ⟨horderly, husers, hchannels, hmessages⟩
    exact ⟨horderly, by simp only [records, husers, hchannels, hmessages]⟩
  insertMessage_error h herror := by
    rw [insertMessage_error herror]
    exact ⟨h, rfl⟩
  updateRole_ok {s s' server username role found} h hok := by
    rcases Prod.mk.inj hok with ⟨-, rfl⟩
    refine ⟨⟨h.users.map _ fun u => ?_, h.channels, h.messages⟩, rfl⟩
    by_cases hu : goesBy server username u = true
    · rw [if_pos hu]
    · rw [if_neg hu]
  updateRole_error h herror := absurd (Prod.mk.inj herror).1 (by simp)

end MemoryStore

end ChatHost
