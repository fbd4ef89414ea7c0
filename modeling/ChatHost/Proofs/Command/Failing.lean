import ChatHost.Command.Run
import ChatHost.Proofs.Server.Registration

/-!
# Commands that Fail

What a command leaves in the store if it fails.

A command that is to add servers adds them first and makes out the invitations to them
afterwards. What it has added by the time it fails stays, and since it has printed nothing
nobody is told of it. If the store fails, or no lot is left, these are fewer servers than were
wanted. If invitations cannot be made out, they are all that were wanted, and whoever tries
again gets as many once more. All of them are there, and their invitations are printed, if
the command then cannot wait for an interrupt.

Apart from this a command that fails leaves nothing behind. So one that is to add a single
server, on a host that advertises an IPv4 address and can tell of interrupts, does all of its
work or none.

## Main definitions

* `HostConfig.Invites`: Invitations can be made out.
* `Command.wanted`: How many servers a command is to add.
* `Command.Accounts`: What becomes of the store in a command that fails.

## Theorems

* `Command.runServe_accounts` and its siblings: What each command leaves behind.
* `Command.failed_leaves_servers_only`: The same for all commands.
* `Command.unadvertised_server_stays`: A server that nobody is told of.
-/

namespace ChatHost

open Backed

/-- Invitations can be made out: what the host advertises is an IPv4 address. -/
def HostConfig.Invites (config : HostConfig) : Prop :=
  ∃ address, Ip.parse? config.advertiseHost = some (.v4 address)

section Roles

-- What is done to those who match is done to nobody if nobody matches.
theorem map_unmatched {α : Type} {p : α → Bool} {f : α → α} {rows : List α}
    (h : rows.any p = false) : (rows.map fun row => if p row then f row else row) = rows := by
  have hsame : ∀ row ∈ rows, (if p row then f row else row) = row :=
    fun row hrow => if_neg (List.any_eq_false.mp h row hrow)
  exact (List.map_congr_left hsame).trans (List.map_id' rows)

theorem Backing.updateRole_cases (b : Backing) (server : ServerId) (username : String)
    (role : Role) :
    (∃ b', Gateway.updateRole b server username role = (.ok true, b')) ∨
      Gateway.updateRole b server username role = (.ok false, b) := by
  cases b with
  | memory s =>
      rcases hfound : s.users.any (MemoryStore.goesBy server username) with _ | _
      · have hsame : s.updateRole server username role = (.ok false, s) := by
          rw [MemoryStore.updateRole, hfound, map_unmatched hfound]
        exact Or.inr (congrArg (Prod.map id memory) hsame)
      · have hgiven : (s.updateRole server username role).1 = .ok true := congrArg _ hfound
        exact Or.inl ⟨_, Prod.ext hgiven rfl⟩
  | tables s =>
      rcases hfound : s.users.has (TableStore.goesBy server username) with _ | _
      · have hsame : s.updateRole server username role = (.ok false, s) := by
          rw [TableStore.updateRole, hfound, map_unmatched hfound]
        exact Or.inr (congrArg (Prod.map id tables) hsame)
      · have hgiven : (s.updateRole server username role).1 = .ok true := congrArg _ hfound
        exact Or.inl ⟨_, Prod.ext hgiven rfl⟩

-- A role that is given to nobody changes nothing.
theorem Backed.updateRole_cases {σ : Type} [Gateway σ] [Backed σ] (s : σ) (server : ServerId)
    (username : String) (role : Role) :
    (∃ s', Gateway.updateRole s server username role = (.ok true, s')) ∨
      ∃ result s', Gateway.updateRole s server username role = (result, s') ∧
        result ≠ .ok true ∧ backing s' = backing s := by
  rcases hresult : Gateway.updateRole s server username role with ⟨result, s'⟩
  by_cases hgiven : result = .ok true
  · exact Or.inl ⟨s', by rw [hgiven]⟩
  · refine Or.inr ⟨result, s', rfl, hgiven, ?_⟩
    have hrun := run_cases s (.updateRole server username role)
    simp only [StoreRequest.run, answered, hresult] at hrun
    rcases hrun with ⟨-, hsame⟩ | ⟨hanswer, hsame⟩
    · exact hsame
    · rcases (backing s).updateRole_cases server username role with ⟨b', hupdated⟩ | hnobody
      · rw [hupdated] at hanswer
        rcases result with fault | found
        · exact absurd hanswer (by simp [Except.map])
        · exact absurd (congrArg _ (StoreAnswer.updated.inj (Except.ok.inj hanswer))) hgiven
      · rw [hsame, hnobody]

end Roles

namespace Command

/-- How many servers a command is to add. -/
def wanted : Command → Nat
  | serve memory create => create.getD (if memory then 1 else 0)
  | createServer => 1
  | listServers | setRole _ _ _ | listUsers _ _ => 0

section Inviting

variable {config : HostConfig}

theorem invitationTo_cases (config : HostConfig) (server : ServerId) :
    (config.Invites ∧ ∃ invitation, invitationTo config server = .ok invitation) ∨
      (¬ config.Invites ∧ ∃ reason, invitationTo config server = .error (.invalidInput reason)) := by
  rw [invitationTo, HostConfig.Invites]
  rcases Ip.parse? config.advertiseHost with _ | ⟨address⟩ | _
  · exact Or.inr ⟨by simp, _, rfl⟩
  · exact Or.inl ⟨⟨address, rfl⟩, _, rfl⟩
  · exact Or.inr ⟨by simp, _, rfl⟩

theorem invitations_ok (h : config.Invites) (ids : List ServerId) :
    (invitations config ids).result = .ok () := by
  induction ids with
  | nil => rfl
  | cons id rest ih =>
      rcases invitationTo_cases config id with ⟨-, invitation, hmade⟩ | ⟨hnot, -⟩
      · simp only [invitations, hmade, ih]
      · exact absurd h hnot

-- The first invitation fails already.
theorem invitations_failed (h : ¬ config.Invites) {ids : List ServerId} (hids : ids ≠ []) :
    ∃ reason, invitations config ids = .failed (.invalidInput reason) := by
  rcases ids with _ | ⟨id, rest⟩
  · exact absurd rfl hids
  · rcases invitationTo_cases config id with ⟨hyes, -⟩ | ⟨-, reason, hnone⟩
    · exact absurd hyes h
    · exact ⟨reason, by simp only [invitations, hnone]⟩

end Inviting

/-- What becomes of the store in a command that fails. It has been given servers and nothing
    else: fewer than were wanted if the fault was with the store or the lots, and all of them
    if no invitation could be made out, or if the wait for an interrupt failed. Where no
    invitation can be made out, nothing is ever printed. -/
structure Accounts {σ : Type} [Gateway σ] [Backed σ] (config : HostConfig)
    (interrupt : Except String Unit) (wanted : Nat) (store : σ) (ending : Outcome × σ) :
    Prop where
  failed : ∀ error, ending.1.result = .error error →
    ∃ ids, (backing store).Gains ids (backing ending.2) ∧ ids.length ≤ wanted ∧
      (0 < wanted →
        (∃ fault, error = .fault fault) ∧ ids.length < wanted ∨
          (∃ reason, error = .invalidInput reason) ∧ ¬ config.Invites ∧ ids.length = wanted ∨
          (∃ reason, error = .internal reason ∧ interrupt = .error reason) ∧ config.Invites ∧
            ids.length = wanted)
  silent : ¬ config.Invites → 0 < wanted →
    (∃ error, ending.1.result = .error error) ∧ ending.1.lines = []

section Running

variable {σ : Type} [Gateway σ] [Backed σ] {config : HostConfig}
  {interrupt : Except String Unit} {store : σ}

namespace Accounts

-- A command that adds nothing accounts for nothing.
theorem of_same {ending : Outcome × σ} (h : ∀ error, ending.1.result = .error error →
    backing ending.2 = backing store) : Accounts config interrupt 0 store ending where
  failed error herror :=
    ⟨[], .of_eq (h error herror), Nat.le_refl 0, fun hpos => absurd hpos (Nat.lt_irrefl 0)⟩
  silent _ hpos := absurd hpos (Nat.lt_irrefl 0)

-- A fault comes before everything that was wanted has been added.
theorem of_fault {fault : Fault} {store' : σ} {ids : List ServerId} {wanted : Nat}
    (hgains : (backing store).Gains ids (backing store')) (hids : ids = [] ∨ ids.length < wanted) :
    Accounts config interrupt wanted store (.failed (.fault fault), store') where
  failed error herror := by
    have hfault : error = .fault fault := (Except.error.inj herror).symm
    rcases hids with rfl | hids
    · exact ⟨[], hgains, Nat.zero_le _, fun hpos => Or.inl ⟨⟨fault, hfault⟩, hpos⟩⟩
    · exact ⟨ids, hgains, Nat.le_of_lt hids, fun _ => Or.inl ⟨⟨fault, hfault⟩, hids⟩⟩
  silent _ _ := ⟨⟨_, rfl⟩, rfl⟩

-- When everything has been added, there are still the invitations to be made out.
theorem of_added {ending : Outcome × σ} {ids : List ServerId} {wanted : Nat}
    (hgains : (backing store).Gains ids (backing ending.2)) (hids : ids.length = wanted)
    (hresult : ending.1.result = (invitations config ids).result)
    (hlines : ending.1.lines = (invitations config ids).lines) :
    Accounts config interrupt wanted store ending where
  failed error herror := by
    rw [hresult] at herror
    have hnot : ¬ config.Invites := by
      intro hyes
      rw [invitations_ok hyes ids] at herror
      exact absurd herror (by simp)
    have hsome : ids ≠ [] := by
      rintro rfl
      exact absurd herror (by simp [invitations])
    rcases invitations_failed hnot hsome with ⟨reason, hfailed⟩
    rw [hfailed] at herror
    exact ⟨ids, hgains, Nat.le_of_eq hids, fun _ =>
      Or.inr (Or.inl ⟨⟨reason, (Except.error.inj herror).symm⟩, hnot, hids⟩)⟩
  silent hnot hpos := by
    have hsome : ids ≠ [] := List.ne_nil_of_length_pos (hids ▸ hpos)
    rcases invitations_failed hnot hsome with ⟨reason, hfailed⟩
    rw [hresult, hlines, hfailed]
    exact ⟨⟨_, rfl⟩, rfl⟩

-- Invitations that are printed have been made out, so only the wait can fail after that.
theorem of_printed {ending : Outcome × σ} {ids : List ServerId} {wanted : Nat}
    {registry : Registry} (hgains : (backing store).Gains ids (backing ending.2))
    (hids : ids.length = wanted) (hprinted : (invitations config ids).result = .ok ())
    (hresult : ending.1.result = (endRunning registry interrupt).2) :
    Accounts config interrupt wanted store ending := by
  have hinvites : 0 < wanted → config.Invites := by
    intro hpos
    by_contra hnot
    rcases invitations_failed hnot (List.ne_nil_of_length_pos (hids ▸ hpos)) with
      ⟨reason, hfailed⟩
    rw [hfailed] at hprinted
    exact absurd hprinted (by simp [Outcome.failed])
  constructor
  · intro error herror
    rw [hresult] at herror
    rcases interrupt with reason | ⟨⟩
    · exact ⟨ids, hgains, Nat.le_of_eq hids, fun hpos =>
        Or.inr (Or.inr ⟨⟨reason, (Except.error.inj herror).symm, rfl⟩, hinvites hpos, hids⟩)⟩
    · exact absurd herror (by simp [endRunning])
  · exact fun hnot hpos => absurd (hinvites hpos) hnot

end Accounts

theorem runServe_accounts (config : HostConfig) (settings : ServerSettings)
    (lots : Nat → List ServerId) (interrupt : Except String Unit) (create : Nat) (store : σ) :
    Accounts config interrupt create store
      (runServe config settings lots interrupt create store) := by
  rcases (Registry.mk settings []).bootstrap_enrols store lots create with
    ⟨listed, ids, -, hgains, -, -, hresult⟩
  rw [runServe]
  rcases hboot : (Registry.mk settings []).bootstrap store lots create with
    ⟨fault | boot, store', registry⟩
  · rw [hboot] at hgains hresult
    rcases hresult with ⟨⟨loaded, hok⟩, -⟩ | ⟨-, hids⟩
    · exact absurd hok (by simp)
    · exact .of_fault hgains hids
  · rw [hboot] at hgains hresult
    rcases hresult with ⟨⟨loaded, hok⟩, hlength⟩ | ⟨⟨fault, hfault⟩, -⟩
    · obtain rfl := Except.ok.inj hok
      -- Whether or not the servers are run then, no more is printed.
      simp only
      split
      · exact .of_added hgains hlength rfl rfl
      · next hprinted => exact .of_printed hgains hlength hprinted rfl
    · exact absurd hfault (by simp)

theorem runCreateServer_accounts (config : HostConfig) (settings : ServerSettings)
    (lots : Nat → List ServerId) (store : σ) :
    Accounts config interrupt 1 store (runCreateServer config settings lots store) := by
  rw [runCreateServer]
  rcases (Registry.mk settings []).load store with ⟨fault | loaded, registry⟩
  · exact .of_fault (.refl _) (Or.inl rfl)
  · rcases registry.create_cases store (lots 0) with
      ⟨id, -, store', hcreated, -, hgains⟩ | ⟨fault, store', hfailed, hsame⟩
    · simp only [hcreated]
      exact .of_added hgains rfl rfl rfl
    · simp only [hfailed]
      exact .of_fault (.of_eq hsame) (Or.inl rfl)

theorem runSetRole_accounts (config : HostConfig) (server : ServerId) (username : String)
    (role : Role) (store : σ) :
    Accounts config interrupt 0 store (runSetRole server username role store) := by
  rw [runSetRole]
  rcases updateRole_cases store server username role with
    ⟨store', hgiven⟩ | ⟨result, store', hupdate, hresult, hsame⟩
  · rw [hgiven]
    exact .of_same fun error herror => absurd herror (by simp)
  · rw [hupdate]
    rcases result with fault | _ | _
    · exact .of_same fun _ _ => hsame
    · exact .of_same fun _ _ => hsame
    · exact absurd rfl hresult

/-- What a command that fails leaves in the store are servers that it was to add. If it is to
    add one at most, invitations can be made out, and the wait for an interrupt does not fail,
    it leaves nothing. -/
theorem failed_leaves_servers_only (command : Command) (config : HostConfig)
    (settings : ServerSettings) (lots : Nat → List ServerId) (interrupt : Except String Unit)
    (store : σ) :
    let ending := command.run config settings lots interrupt store
    Accounts config interrupt command.wanted store ending ∧
      (config.Invites → command.wanted ≤ 1 → ∀ error, ending.1.result = .error error →
        backing ending.2 = backing store ∨
          ∃ reason, error = .internal reason ∧ interrupt = .error reason) := by
  intro ending
  have haccounts : Accounts config interrupt command.wanted store ending := by
    cases command with
    | serve memory create => exact runServe_accounts config settings lots interrupt _ store
    | createServer => exact runCreateServer_accounts config settings lots store
    | setRole server username role =>
        exact runSetRole_accounts config server username role store
    | listServers | listUsers => exact .of_same fun _ _ => rfl
  refine ⟨haccounts, fun hinvites hone error herror => ?_⟩
  rcases haccounts.failed error herror with ⟨ids, hgains, hle, hshort⟩
  have hsame : ids.length = 0 → backing ending.2 = backing store := fun hnone =>
    hgains.unchanged (List.length_eq_zero_iff.mp hnone)
  rcases Nat.eq_zero_or_pos command.wanted with hnone | hpos
  · exact Or.inl (hsame (by omega))
  · rcases hshort hpos with ⟨-, hlt⟩ | ⟨-, hnot, -⟩ | ⟨hwait, -⟩
    · exact Or.inl (hsame (by omega))
    · exact absurd hinvites hnot
    · exact Or.inr hwait

end Running

/-- A host that advertises a name. All else is as it is where nothing is set. -/
def namedHost : HostConfig where
  appName := "huddle"
  environment := .development
  bindHost := "127.0.0.1"
  advertiseHost := "localhost"
  databaseUrl := HostConfig.standardDatabase
  maxConnections := 5
  tickMs := 200
  heartbeatStaleSecs := 60
  heartbeatTimeoutMs := 5000
  logFormat := .pretty

/-- Such a host is set up, and fails to add a server. The server is there all the same, and
    another one when it is tried again, and nobody is told of either. -/
theorem unadvertised_server_stays :
    let lookup : HostConfig.Lookup := fun key =>
      if key = "ADVERTISE_HOST" then some "localhost" else none
    let settings : ServerSettings := ⟨.v4 ⟨127, 0, 0, 1⟩, ⟨200, 60000, 5000⟩⟩
    let first :=
      createServer.run namedHost settings (fun _ => [7001]) (.ok ()) (.tables .empty : Backing)
    let second := createServer.run namedHost settings (fun _ => [7002]) (.ok ()) first.2
    let failure := CommandError.invalidInput "ADVERTISE_HOST 'localhost' is not an IP address"
    HostConfig.ofLookup lookup = .ok namedHost ∧ namedHost.serverSettings = .ok settings ∧
      first.1 = .failed failure ∧ second.1 = .failed failure ∧
      first.2 = .tables { servers := [7001] } ∧ second.2 = .tables { servers := [7001, 7002] } := by
  exact ⟨rfl, rfl, rfl, rfl, rfl, rfl⟩

end Command

end ChatHost
