import ChatHost.Proofs.Store.MemoryLaws
import ChatHost.Proofs.Store.TableLaws
import ChatHost.Store.Backing

/-!
# Laws of Backings

The store that a host is set up with is of one kind or the other, and stays so.
What holds of both kinds therefore holds of it.

The laws are about orderly stores, and a store that began without records and
has known nothing but gateway operations is orderly (`Filled.orderly`). In such
a store no two users of a server have the same address (`Filled.apart`): the
operation that adds a user refuses the second one, and no other operation
touches an address.

## Main definitions

* `Apart`: No two users of a server have the same address.
* `Backing.Filled`: What gateway operations make of a store without records.

## Theorems

* `StoreRequest.run_apart`: Every operation keeps users apart.
* `Backing.Filled.orderly`, `Backing.Filled.apart`: What a filled store is like.
* `selectUsers_apart`: The users that a server starts with are apart.
-/

namespace ChatHost

open LawfulGateway

section Apart

variable {σ : Type} [Gateway σ] [LawfulGateway σ]

/-- No two users of a server have the same address. -/
def Apart (s : σ) : Prop :=
  (records s).users.Pairwise fun u v => u.server = v.server → u.ip ≠ v.ip

theorem apart_of_users_eq {s s' : σ} (h : Apart s)
    (husers : (records s').users = (records s).users) : Apart s' := by
  unfold Apart
  rw [husers]
  exact h

theorem apart_insertUser {s : σ} (hs : Orderly s) (h : Apart s) (server : ServerId) (ip : Ip)
    (username : Name) : Apart (Gateway.insertUser s server ip username).2 := by
  rcases hresult : Gateway.insertUser s server ip username with ⟨fault | user, s'⟩
  · exact apart_of_users_eq h (by rw [(insertUser_error hs hresult).2])
  · rcases insertUser_ok hs hresult with ⟨-, huser, hnew, hrecords⟩
    unfold Apart
    rw [hrecords]
    refine List.pairwise_append.mpr ⟨h, List.pairwise_singleton _ _, ?_⟩
    -- The operation has succeeded, so nobody had the address before.
    intro u hu v hv hserver hip
    rw [List.mem_singleton.mp hv, huser] at hserver hip
    exact hnew u hu hserver hip

theorem apart_updateRole {s : σ} (hs : Orderly s) (h : Apart s) (server : ServerId)
    (username : String) (role : Role) :
    Apart (Gateway.updateRole s server username role).2 := by
  rcases hresult : Gateway.updateRole s server username role with ⟨fault | found, s'⟩
  · exact apart_of_users_eq h (by rw [(updateRole_error hs hresult).2])
  · rcases updateRole_ok hs hresult with ⟨-, hrecords⟩
    have hkeeps : ∀ u : UserRecord, (u.withRoleIf server username role).server = u.server ∧
        (u.withRoleIf server username role).ip = u.ip := by
      intro u
      rw [UserRecord.withRoleIf]
      split <;> exact ⟨rfl, rfl⟩
    unfold Apart at h ⊢
    rw [hrecords, List.pairwise_map]
    simpa only [hkeeps] using h

/-- Every operation keeps the users of each server apart. -/
theorem StoreRequest.run_apart {s : σ} (hs : Orderly s) (h : Apart s) (request : StoreRequest) :
    Apart (request.run s).2 := by
  cases request with
  | selectServers id => exact h
  | selectUsers filter => exact h
  | selectChannels filter => exact h
  | selectMessages filter => exact h
  | insertServer id =>
      exact apart_of_users_eq h (by
        rw [StoreRequest.run, answered, (insertServer_keeps hs (Prod.eta _).symm).2])
  | insertUser server ip username => exact apart_insertUser hs h server ip username
  | insertChannel name server =>
      rcases hresult : Gateway.insertChannel s name server with ⟨fault | channel, s'⟩ <;>
        rw [StoreRequest.run, hresult]
      · exact apart_of_users_eq h (by rw [answered, (insertChannel_error hs hresult).2])
      · exact apart_of_users_eq h (by rw [answered, (insertChannel_ok hs hresult).2.2])
  | insertMessage text channel sender =>
      rcases hresult : Gateway.insertMessage s text channel sender with ⟨fault | receipt, s'⟩ <;>
        rw [StoreRequest.run, hresult]
      · exact apart_of_users_eq h (by rw [answered, (insertMessage_error hs hresult).2])
      · exact apart_of_users_eq h (by rw [answered, (insertMessage_ok hs hresult).2])
  | updateRole server username role => exact apart_updateRole hs h server username role

/-- The users that a server starts with have addresses of their own. -/
theorem selectUsers_apart {s : σ} (hs : Orderly s) (h : Apart s) {server : ServerId}
    {found : List UserRecord}
    (hfound : Gateway.selectUsers s { server := some server } = .ok found) :
    found.Pairwise fun u v => u.ip ≠ v.ip := by
  rw [selectUsers_ok hs hfound]
  refine (h.filter _).imp_of_mem ?_
  intro u v hu hv huv
  -- All that are found are users of one server.
  have hserver : ∀ w ∈ (records s).users.filter (UserFilter.admits { server := some server }),
      w.server = server := by
    intro w hw
    have hadmits := (List.mem_filter.mp hw).2
    simp only [UserFilter.admits, agrees, Bool.and_true, decide_eq_true_eq] at hadmits
    exact hadmits.symm
  exact huv ((hserver u hu).trans (hserver v hv).symm)

end Apart

namespace Backing

-- A change happens in the store that there is, of whichever kind.
theorem change_cases {α : Type} {b b' : Backing} {ofMemory : MemoryStore → α × MemoryStore}
    {ofTables : TableStore → α × TableStore} {a : α}
    (h : b.change ofMemory ofTables = (a, b')) :
    (∃ s s', b = memory s ∧ b' = memory s' ∧ ofMemory s = (a, s')) ∨
      ∃ s s', b = tables s ∧ b' = tables s' ∧ ofTables s = (a, s') := by
  cases b with
  | memory s =>
      rcases Prod.mk.inj h with ⟨rfl, rfl⟩
      exact Or.inl ⟨s, _, rfl, rfl, rfl⟩
  | tables s =>
      rcases Prod.mk.inj h with ⟨rfl, rfl⟩
      exact Or.inr ⟨s, _, rfl, rfl, rfl⟩

/-- The records of whichever store there is. -/
def records (b : Backing) : Records := b.query LawfulGateway.records LawfulGateway.records

/-- Whether the store that there is is as gateway operations keep it. -/
def Orderly (b : Backing) : Prop := b.query LawfulGateway.Orderly LawfulGateway.Orderly

instance : LawfulGateway Backing where
  records := records
  Orderly := Orderly
  users_ascend {b} h := by
    cases b with
    | memory s => exact LawfulGateway.users_ascend (s := s) h
    | tables s => exact LawfulGateway.users_ascend (s := s) h
  channels_ascend {b} h := by
    cases b with
    | memory s => exact LawfulGateway.channels_ascend (s := s) h
    | tables s => exact LawfulGateway.channels_ascend (s := s) h
  messages_ascend {b} h := by
    cases b with
    | memory s => exact LawfulGateway.messages_ascend (s := s) h
    | tables s => exact LawfulGateway.messages_ascend (s := s) h
  selectUsers_ok {b _ _} h hfound := by
    cases b with
    | memory s => exact LawfulGateway.selectUsers_ok (s := s) h hfound
    | tables s => exact LawfulGateway.selectUsers_ok (s := s) h hfound
  selectChannels_ok {b _ _} h hfound := by
    cases b with
    | memory s => exact LawfulGateway.selectChannels_ok (s := s) h hfound
    | tables s => exact LawfulGateway.selectChannels_ok (s := s) h hfound
  selectMessages_ok {b _ _} h hfound := by
    cases b with
    | memory s => exact LawfulGateway.selectMessages_ok (s := s) h hfound
    | tables s => exact LawfulGateway.selectMessages_ok (s := s) h hfound
  insertServer_keeps h hresult := by
    rcases change_cases hresult with ⟨s, s', rfl, rfl, hs⟩ | ⟨s, s', rfl, rfl, hs⟩
    · exact LawfulGateway.insertServer_keeps (s := s) h hs
    · exact LawfulGateway.insertServer_keeps (s := s) h hs
  insertUser_ok h hok := by
    rcases change_cases hok with ⟨s, s', rfl, rfl, hs⟩ | ⟨s, s', rfl, rfl, hs⟩
    · exact LawfulGateway.insertUser_ok (s := s) h hs
    · exact LawfulGateway.insertUser_ok (s := s) h hs
  insertUser_error h herror := by
    rcases change_cases herror with ⟨s, s', rfl, rfl, hs⟩ | ⟨s, s', rfl, rfl, hs⟩
    · exact LawfulGateway.insertUser_error (s := s) h hs
    · exact LawfulGateway.insertUser_error (s := s) h hs
  insertChannel_ok h hok := by
    rcases change_cases hok with ⟨s, s', rfl, rfl, hs⟩ | ⟨s, s', rfl, rfl, hs⟩
    · exact LawfulGateway.insertChannel_ok (s := s) h hs
    · exact LawfulGateway.insertChannel_ok (s := s) h hs
  insertChannel_error h herror := by
    rcases change_cases herror with ⟨s, s', rfl, rfl, hs⟩ | ⟨s, s', rfl, rfl, hs⟩
    · exact LawfulGateway.insertChannel_error (s := s) h hs
    · exact LawfulGateway.insertChannel_error (s := s) h hs
  insertMessage_ok h hok := by
    rcases change_cases hok with ⟨s, s', rfl, rfl, hs⟩ | ⟨s, s', rfl, rfl, hs⟩
    · exact LawfulGateway.insertMessage_ok (s := s) h hs
    · exact LawfulGateway.insertMessage_ok (s := s) h hs
  insertMessage_error h herror := by
    rcases change_cases herror with ⟨s, s', rfl, rfl, hs⟩ | ⟨s, s', rfl, rfl, hs⟩
    · exact LawfulGateway.insertMessage_error (s := s) h hs
    · exact LawfulGateway.insertMessage_error (s := s) h hs
  updateRole_ok h hok := by
    rcases change_cases hok with ⟨s, s', rfl, rfl, hs⟩ | ⟨s, s', rfl, rfl, hs⟩
    · exact LawfulGateway.updateRole_ok (s := s) h hs
    · exact LawfulGateway.updateRole_ok (s := s) h hs
  updateRole_error h herror := by
    rcases change_cases herror with ⟨s, s', rfl, rfl, hs⟩ | ⟨s, s', rfl, rfl, hs⟩
    · exact LawfulGateway.updateRole_error (s := s) h hs
    · exact LawfulGateway.updateRole_error (s := s) h hs

/-- What gateway operations make of a store without records. -/
inductive Filled : Backing → Prop
  | memory : Filled (memory .empty)
  | tables : Filled (tables .empty)
  | run {b : Backing} (request : StoreRequest) : Filled b → Filled (request.run b).2

namespace Filled

/-- A filled store is as gateway operations keep it. -/
theorem orderly {b : Backing} (h : Filled b) : LawfulGateway.Orderly b := by
  induction h with
  | memory => exact MemoryStore.orderly_empty
  | tables => exact TableStore.orderly_empty
  | run request h ih => exact (request.run_grows ih).orderly

/-- In a filled store no two users of a server have the same address. -/
theorem apart {b : Backing} (h : Filled b) : Apart b := by
  induction h with
  | memory => exact List.Pairwise.nil
  | tables => exact List.Pairwise.nil
  | run request h ih => exact request.run_apart h.orderly ih

end Filled

end Backing

end ChatHost
