import ChatHost.Proofs.Server.Sweeps
import ChatHost.Proofs.Wire.RoundTrip

/-!
# Rejections

What a request leaves behind that is not granted.

There are three things that a request can change: the store, the queue, and what is known
of users. A request without a handler changes none of them. One that has a handler is a
sign of life of its sender, and this counts even if the request is rejected, so what is
known of the sender may change; nothing else does, whichever of the operations of the
store fail, as long as an operation that fails leaves the store as it was
(`Course.rejected`).

There is one exception. A user who opens a channel looks at it before its history is read,
and goes on looking at it if the history cannot be read after all.

Whatever becomes of a request, it concerns its sender, and whom it makes a member; all other
users are as they were (`dispatch_get?`). That the new member is nobody who was tracked
before comes from the store, which knows everybody who is tracked.

## Main definitions

* `FailsClean`: An operation that fails leaves the store as it is.
* `isRefusal`, `Rejects`: A request is refused, or dropped.
* `Enrolls`: A request makes somebody a member.
* `AsksInVain`: A request is for a channel whose history cannot be read.

## Theorems

* `MemoryStore.failsClean`, `Breakable.failsClean`: Stores that do so.
* `Course.rejected`, `dispatch_rejected`: What rejects a request changes nothing, with one
  exception.
* `Course.get?_other`, `dispatch_get?`: What a packet is to those who have not sent it.
* `rejected_leaves_world`: What a packet leaves behind that is not granted.
-/

namespace ChatHost

section Stores

variable {σ : Type} [Gateway σ]

/-- An operation that fails leaves the store as it is. -/
def FailsClean (s : σ) : Prop :=
  ∀ (call : StoreRequest) (fault : Fault) (s' : σ), call.run s = (.error fault, s') → s' = s

namespace FailsClean

variable {s s' : σ} {fault : Fault}

theorem insertUser (h : FailsClean s) {server : ServerId} {ip : Ip} {username : Name}
    (hstore : Gateway.insertUser s server ip username = (.error fault, s')) : s' = s := by
  refine h (.insertUser server ip username) fault s' ?_
  rw [StoreRequest.run, answered, hstore]
  rfl

theorem insertChannel (h : FailsClean s) {name : Name} {server : ServerId}
    (hstore : Gateway.insertChannel s name server = (.error fault, s')) : s' = s := by
  refine h (.insertChannel name server) fault s' ?_
  rw [StoreRequest.run, answered, hstore]
  rfl

theorem insertMessage (h : FailsClean s) {text : String} {channel : ChannelId} {sender : UserId}
    (hstore : Gateway.insertMessage s text channel sender = (.error fault, s')) : s' = s := by
  refine h (.insertMessage text channel sender) fault s' ?_
  rw [StoreRequest.run, answered, hstore]
  rfl

end FailsClean

-- An answer that is a failure comes from a result that is one.
omit [Gateway σ] in
theorem answered_error {α : Type} {wrap : α → StoreAnswer} {result : Except Fault α × σ}
    {fault : Fault} {s' : σ} (h : answered wrap result = (.error fault, s')) :
    result = (.error fault, s') := by
  rcases result with ⟨fault' | a, store⟩
  · rcases Prod.mk.inj h with ⟨hfault, rfl⟩
    rw [Except.error.inj hfault]
  · simp [answered, Except.map] at h

/-- A store in memory checks everything before it changes anything. -/
theorem MemoryStore.failsClean (s : MemoryStore) : FailsClean s := by
  intro call fault s' h
  cases call with
  | insertServer id =>
      have hresult : s.insertServer id = (.error fault, s') := answered_error h
      rw [MemoryStore.insertServer] at hresult
      split at hresult
      · exact (Prod.mk.inj hresult).2.symm
      · simp at hresult
  | insertUser server ip username => exact insertUser_error (answered_error h)
  | insertChannel name server => exact insertChannel_error (answered_error h)
  | insertMessage text channel sender => exact insertMessage_error (answered_error h)
  | updateRole server username role =>
      have hresult : s.updateRole server username role = (.error fault, s') := answered_error h
      simp [MemoryStore.updateRole] at hresult
  | _ => exact (Prod.mk.inj h).2.symm

-- A change that fails has failed in a store that it left as it was, or never got there.
omit [Gateway σ] in
theorem Breakable.change_clean {α : Type} {b b' : Breakable σ} {method : StoreMethod}
    {act : σ → Except Fault α × σ} {fault : Fault}
    (hact : ∀ s', act b.store = (.error fault, s') → s' = b.store)
    (h : b.change method act = (.error fault, b')) : b' = b := by
  rw [change] at h
  split at h
  · exact (Prod.mk.inj h).2.symm
  · rcases hresult : act b.store with ⟨result, store⟩
    simp only [hresult, Prod.mk.injEq] at h
    rcases h with ⟨rfl, rfl⟩
    rw [hact store hresult]

/-- So does a store some of whose operations fail, if the store behind it does. -/
theorem Breakable.failsClean {b : Breakable σ} (h : FailsClean b.store) : FailsClean b := by
  intro call fault b' hrun
  have hcall : ∀ {α : Type} {wrap : α → StoreAnswer} {result : Except Fault α × σ} {s' : σ},
      result = (.error fault, s') → answered wrap result = (.error fault, s') := by
    intro α wrap result s' hresult
    rw [hresult]
    rfl
  cases call with
  | insertServer id =>
      refine change_clean (fun s' hact => ?_) (answered_error hrun)
      exact h (.insertServer id) fault s' (hcall hact)
  | insertUser server ip username =>
      refine change_clean (fun s' hact => ?_) (answered_error hrun)
      exact h (.insertUser server ip username) fault s' (hcall hact)
  | insertChannel name server =>
      refine change_clean (fun s' hact => ?_) (answered_error hrun)
      exact h (.insertChannel name server) fault s' (hcall hact)
  | insertMessage text channel sender =>
      refine change_clean (fun s' hact => ?_) (answered_error hrun)
      exact h (.insertMessage text channel sender) fault s' (hcall hact)
  | updateRole server username role =>
      refine change_clean (fun s' hact => ?_) (answered_error hrun)
      exact h (.updateRole server username role) fault s' (hcall hact)
  | _ => exact (Prod.mk.inj hrun).2.symm

end Stores

section Handling

variable {σ : Type} [Gateway σ] {server : ServerId} {request : Request} {w w' : World σ}

/-- A packet is the answer to a request that is not granted. -/
def isRefusal (packet : Bytes) : Prop :=
  ∃ kind rest, ResponseHeader.decode packet = (.ok ⟨kind, .fail⟩, rest)

/-- A handler drops a request, or refuses it. -/
def Rejects : Except HandlerError Reply → Prop
  | .error _ => True
  | .ok (.answer packet) => isRefusal packet
  | .ok .silent => False

-- What grants a request does not refuse it.
theorem not_isRefusal_success {α : Type} [Payload α] (kind : RequestKind) (payload : α) :
    ¬ isRefusal (responsePacket kind .success payload) := by
  rintro ⟨kind', rest, hfail⟩
  rw [responsePacket, ResponseHeader.reads] at hfail
  simp at hfail

/-- A handler that rejects a request leaves the world as it is, if operations of the store
    that fail leave the store as it is. The exception is a user who opens a channel of the
    server and looks at it from then on although its history cannot be read. -/
theorem Course.rejected {handler : Handler} {calls : List StoreRequest}
    {reply : Except HandlerError Reply} (h : Course server request w handler calls reply w')
    (hclean : FailsClean w.store) (hrejects : Rejects reply) :
    w' = w ∨ ∃ (channel : ChannelId) (user : TrackedUser) (fault : Fault),
      handler = .openChannel ∧
      (Payload.decode : Decoder OpenRequest).value request.payload = .ok ⟨channel⟩ ∧
      w.ownsChannel server channel = .ok true ∧
      w.live.presence.find? request.peer = some user ∧
      Gateway.selectMessages w.store { channel := some channel } = .error fault ∧
      w' = w.setPresence ((w.live.presence.setChannel user.id channel).markOnline user.id
        request.peer request.now) := by
  cases h with
  | joinFailed hdecode hstore => exact Or.inl (by rw [hclean.insertUser hstore])
  | sayFailed hdecode howns hfound honline hstore =>
      exact Or.inl (by rw [hclean.insertMessage hstore])
  | createFailed hdecode hstore => exact Or.inl (by rw [hclean.insertChannel hstore])
  | historyFailed hdecode howns hfound hstore =>
      exact Or.inr ⟨_, _, _, rfl, hdecode, howns, hfound, hstore, rfl⟩
  | joined hdecode hstore => exact absurd hrejects (not_isRefusal_success _ _)
  | listed hhandler hstore => exact absurd hrejects (not_isRefusal_success _ _)
  | opened hdecode howns hfound hstore => exact absurd hrejects (not_isRefusal_success _ _)
  | said hdecode howns hfound honline hstore => exact absurd hrejects id
  | rightsTold hstore => exact absurd hrejects (not_isRefusal_success _ _)
  | created hdecode hstore => exact absurd hrejects (not_isRefusal_success _ _)
  | _ => exact Or.inl rfl

/-- Somebody is made a member by a request, under some id. -/
def Enrolls (server : ServerId) (request : Request) (w : World σ) (id : UserId) : Prop :=
  ∃ (username : Name) (record : UserRecord) (store : σ),
    (Payload.decode : Decoder JoinRequest).value request.payload = .ok ⟨username⟩ ∧
    Gateway.insertUser w.store server request.peer.ip username = (.ok record, store) ∧
    record.id = id

/-- What a request is to somebody other than its sender: nothing, unless it makes them a
    member. -/
theorem Course.get?_other {handler : Handler} {calls : List StoreRequest}
    {reply : Except HandlerError Reply} (h : Course server request w handler calls reply w')
    {id : UserId}
    (hother : ∀ user, w.live.presence.find? request.peer = some user → user.id ≠ id) :
    w'.live.presence.get? id = w.live.presence.get? id ∨
      handler = .join ∧ Enrolls server request w id := by
  cases h with
  | @joined username record store hdecode hstore =>
      by_cases hid : record.id = id
      · exact Or.inr ⟨rfl, username, record, store, hdecode, hstore, hid⟩
      · exact Or.inl ((Tracker.get?_insert _ id).trans (if_neg hid))
  | historyFailed hdecode howns hfound hstore =>
      refine Or.inl ?_
      rw [World.setPresence, Tracker.openChannel_eq]
      exact Tracker.get?_modify_ne (fun _ => rfl) (Ne.symm (hother _ hfound))
  | opened hdecode howns hfound hstore =>
      refine Or.inl ?_
      rw [World.setPresence, Tracker.openChannel_eq]
      exact Tracker.get?_modify_ne (fun _ => rfl) (Ne.symm (hother _ hfound))
  | said hdecode howns hfound honline hstore =>
      exact Or.inl (Tracker.get?_modify_ne (fun _ => rfl) (Ne.symm (hother _ hfound)))
  | _ => exact Or.inl rfl

end Handling

section Dispatching

open LawfulGateway

variable {σ : Type} [Gateway σ] {server : ServerId} {w : World σ} {peer : SocketAddress}
  {packet : Bytes}

/-- Somebody asks for a channel of the server whose history cannot be read. -/
def AsksInVain (server : ServerId) (packet : Bytes) (w : World σ) (channel : ChannelId) : Prop :=
  ∃ (body : Bytes) (fault : Fault),
    RequestHeader.decode packet = (.ok ⟨.openChannel⟩, body) ∧
    (Payload.decode : Decoder OpenRequest).value body = .ok ⟨channel⟩ ∧
    w.ownsChannel server channel = .ok true ∧
    Gateway.selectMessages w.store { channel := some channel } = .error fault

/-- What is left of a packet that is rejected is the sign of life, unless its sender, who is
    known, has asked for a channel in vain. -/
theorem dispatch_rejected {handler : Handler} {body : Bytes}
    (hheader : RequestHeader.decode packet = (.ok ⟨handler.kind⟩, body))
    (hclean : FailsClean w.store) {now : Instant}
    (hrejects : Rejects
      (handler.run server { peer, payload := body, now } (w.touch peer now)).1) :
    (dispatch .standard server peer packet now w).2 = w.touch peer now ∨
      (∃ channel, AsksInVain server packet w channel) ∧
        ∃ caller, w.live.presence.find? peer = some caller := by
  have hcourse := handler.run_course server { peer, payload := body, now } (w.touch peer now)
  have hclean' : FailsClean (w.touch peer now).store := by rwa [World.touch_store]
  rw [dispatch_handled server peer hheader now w]
  rcases hcourse.rejected hclean' hrejects with
    hsame | ⟨channel, user, fault, rfl, hdecode, howns, hfound, hstore, -⟩
  · exact Or.inl hsame
  · rw [World.touch_ownsChannel] at howns
    rw [World.touch_store] at hstore
    rcases World.touch_find? ⟨user, hfound, rfl⟩ with ⟨caller, hcaller, -⟩
    exact Or.inr ⟨⟨channel, body, fault, hheader, hdecode, howns, hstore⟩, caller, hcaller⟩

omit [Gateway σ] in
-- Whom a sign of life does not come from is as before.
theorem World.touch_get? {now : Instant} {id : UserId}
    (hother : ∀ user, w.live.presence.find? peer = some user → user.id ≠ id) :
    (w.touch peer now).live.presence.get? id = w.live.presence.get? id := by
  rcases w.touch_heard peer now id with ⟨hsame, -⟩ | ⟨-, user, huser, hid⟩
  · exact hsame
  · exact absurd hid (hother user huser)

/-- What a packet is to somebody other than its sender: nothing, unless it asks to join, and
    makes them a member. -/
theorem dispatch_get? (server : ServerId) (w : World σ) (packet : Bytes) (now : Instant)
    {id : UserId} (hother : ∀ user, w.live.presence.find? peer = some user → user.id ≠ id) :
    (dispatch .standard server peer packet now w).2.live.presence.get? id =
        w.live.presence.get? id ∨
      ∃ body, RequestHeader.decode packet = (.ok ⟨.join⟩, body) ∧
        Enrolls server { peer, payload := body, now } w id := by
  rcases dispatch_cases server peer packet now w with ⟨-, hsame⟩ | ⟨handler, body, hheader⟩
  · exact Or.inl (by rw [hsame])
  · have hcourse := handler.run_course server { peer, payload := body, now } (w.touch peer now)
    have hother' : ∀ user, (w.touch peer now).live.presence.find? peer = some user →
        user.id ≠ id := by
      intro user huser
      rcases World.touch_find? ⟨user, huser, rfl⟩ with ⟨caller, hcaller, hid⟩
      rw [← hid]
      exact hother caller hcaller
    rw [dispatch_handled server peer hheader now w]
    rcases hcourse.get?_other hother' with hsame | ⟨rfl, username, record, store, hdecode, hstore,
      hid⟩
    · exact Or.inl (hsame.trans (World.touch_get? hother))
    · rw [World.touch_store] at hstore
      exact Or.inr ⟨body, hheader, username, record, store, hdecode, hstore, hid⟩

variable [LawfulGateway σ]

/-- What a packet leaves behind that is not granted, if operations of the store that fail
    leave it as it was. A packet without a handler leaves everything behind, and is not
    answered. One that is dropped by its handler or refused leaves all but presence behind,
    and of presence all but the address of its sender and the instant of their last contact,
    if they are known. Who has asked in vain for a channel of the server is online as well,
    and looks at it. Whatever becomes of a packet, it changes nobody but its sender, and adds
    nobody but who joins with it. -/
theorem rejected_leaves_world (h : World.Sound server w) (hclean : FailsClean w.store)
    (peer : SocketAddress) (packet : Bytes) (now : Instant) :
    let outcome := dispatch .standard server peer packet now w
    (((∃ error rest, RequestHeader.decode packet = (.error error, rest)) ∨
        ∃ kind body, RequestHeader.decode packet = (.ok ⟨kind⟩, body) ∧
          HandlerTable.standard.find? kind = none) →
      outcome.1.answer? = none ∧ outcome.2 = w) ∧
    (∀ kind body handler, RequestHeader.decode packet = (.ok ⟨kind⟩, body) →
      HandlerTable.standard.find? kind = some handler →
      ∃ reply, outcome.1 = .handled kind reply ∧ (Rejects reply →
        (w.live.presence.find? peer = none → outcome.2 = w) ∧
        ∀ caller, w.live.presence.find? peer = some caller →
          ((∀ channel, ¬ AsksInVain server packet w channel) →
            outcome.2 = w.setPresence (w.live.presence.modify caller.id fun user =>
              { user with address := some peer, lastContact := now })) ∧
          ∀ channel, AsksInVain server packet w channel →
            outcome.2 = w.setPresence (w.live.presence.modify caller.id fun user =>
              { user with
                online := true, address := some peer, channel := some channel,
                lastContact := now }))) ∧
    ∀ id, (∀ caller, w.live.presence.find? peer = some caller → caller.id ≠ id) →
      outcome.2.live.presence.get? id = w.live.presence.get? id ∨
        w.live.presence.get? id = none ∧
          ∃ body, RequestHeader.decode packet = (.ok ⟨.join⟩, body) ∧
            Enrolls server { peer, payload := body, now } w id := by
  intro outcome
  refine ⟨?_, ?_, ?_⟩
  · rintro (⟨error, rest, hheader⟩ | ⟨kind, body, hheader, hunserved⟩)
    · simp only [outcome, dispatch, hheader]
      exact ⟨rfl, trivial⟩
    · simp only [outcome, dispatch, hheader, hunserved]
      exact ⟨rfl, trivial⟩
  · intro kind body handler hheader hserved
    obtain rfl := HandlerTable.kind_of_find?_standard hserved
    have hdispatch := dispatch_handled server peer hheader now w
    refine ⟨_, congrArg Prod.fst hdispatch, fun hrejects => ?_⟩
    have hrejected := dispatch_rejected hheader hclean hrejects
    refine ⟨fun hunknown => ?_, fun caller hcaller => ⟨fun hnever => ?_, ?_⟩⟩
    · rcases hrejected with hsame | ⟨-, caller, hcaller⟩
      · rw [World.touch, hunknown] at hsame
        exact hsame
      · rw [hunknown] at hcaller
        exact absurd hcaller (by simp)
    · rcases hrejected with hsame | ⟨⟨channel, hvain⟩, -⟩
      · rw [World.touch, hcaller] at hsame
        exact hsame
      · exact absurd hvain (hnever channel)
    · rintro channel ⟨payload, fault, hopen, hpayload, howns, hstore⟩
      have hopening := dispatch_opening hopen hpayload hcaller howns now
      rw [Tracker.openChannel_eq] at hopening
      exact congrArg Prod.snd hopening
  · intro id hother
    rcases dispatch_get? server w packet now hother with hsame | ⟨body, hheader, henrolls⟩
    · exact Or.inl hsame
    · rcases henrolls with ⟨username, record, store, hdecode, hstore, rfl⟩
      exact Or.inr ⟨h.get?_newcomer hstore, body, hheader, username, record, store, hdecode,
        hstore, rfl⟩

open Service in
/-- A server on a store in memory, where a client has joined and made a channel, and whose
    messages can be read no longer. -/
def forgetful : Service MemoryStore :=
  Service.run { server := 7001, world := { store := ⟨.empty, []⟩ } }
    (joining ++
      [.packet alice (requestPacket .createChannel (⟨⟨"attic", by decide⟩⟩ : CreateRequest)),
       .wait 10, .outage [.selectMessages]])

/-- The client asks for the channel, and looks at it although there is no history to see. -/
theorem forgetful_opens_in_vain :
    World.Sound forgetful.server forgetful.world ∧ FailsClean forgetful.world.store ∧
      (dispatch .standard forgetful.server Service.alice
          (requestPacket .openChannel (⟨1⟩ : OpenRequest)) forgetful.clock
          forgetful.world).2.live.presence =
        ⟨[{ id := 1, username := ⟨"alice", by decide⟩, ip := Service.alice.ip,
            address := some Service.alice, role := .member, online := true, channel := some 1,
            lastContact := 10 }]⟩ := by
  have hstarted : Service.Started (σ := MemoryStore)
      { server := 7001, world := { store := ⟨.empty, []⟩ } } :=
    ⟨MemoryStore.orderly_empty, rfl, rfl, Or.inl rfl⟩
  have hsound : World.Sound forgetful.server forgetful.world := (hstarted.sound.run _).world
  have hclean : FailsClean forgetful.world.store :=
    Breakable.failsClean (MemoryStore.failsClean _)
  have hkind : HandlerTable.standard.find? .openChannel = some .openChannel := rfl
  have howns : forgetful.world.ownsChannel forgetful.server 1 = .ok true := by decide +kernel
  have hlost : Gateway.selectMessages forgetful.world.store { channel := some 1 } =
      .error StoreMethod.selectMessages.broken := by decide +kernel
  have hcaller : forgetful.world.live.presence.find? Service.alice =
      some { id := 1, username := ⟨"alice", by decide⟩, ip := Service.alice.ip,
             address := some Service.alice, role := .member, online := false, channel := none,
             lastContact := 0 } := by
    decide +kernel
  have hheader : RequestHeader.decode (requestPacket .openChannel (⟨1⟩ : OpenRequest)) =
      (.ok ⟨.openChannel⟩, leBytes 4 1) := rfl
  have hbody : (Payload.decode : Decoder OpenRequest).value (leBytes 4 1) = .ok ⟨1⟩ := rfl
  rcases (rejected_leaves_world hsound hclean Service.alice _ forgetful.clock).2.1 _ _ _
    hheader hkind with ⟨reply, hreply, hrejected⟩
  have hrefused := dispatch_opening hheader hbody hcaller howns forgetful.clock
  rw [hlost] at hrefused
  have hrejects : Rejects reply := by
    rw [← (Dispatched.handled.inj ((congrArg Prod.fst hrefused).symm.trans hreply)).2]
    have hrefusal : Handler.openChannel.refusal? =
        some (refusalPacket (List MessageRow) .openChannel) := rfl
    exact ⟨.openChannel, _, Handler.refusal_header hrefusal⟩
  have hafter := ((hrejected hrejects).2 _ hcaller).2 1 ⟨_, _, hheader, hbody, howns, hlost⟩
  refine ⟨hsound, hclean, ?_⟩
  rw [hafter]
  decide +kernel

end Dispatching

end ChatHost
