import ChatHost.Server.Dispatch

/-!
# The Courses of a Request

Everything that can become of a request, said once.

A handler is a ladder of decisions: whether the payload can be read, who is
behind the address, what the store returns. A course is one way down that
ladder. It says what the handler asks of the store, what goes back to the
caller, and what the world is then, together with the reasons that brought it
about. Whoever wants to know something of all handlers goes through the courses
and never looks into a handler.

What a handler asks of the store depends on what it has learned so far, so the
list of its calls is a function of the world (`Handler.calls`). That the list is
the right one is shown twice over. Nothing happens to the store but these calls
(`Course.store_eq`), and a handler that gets the same results for them from
another store does the same (`Handler.run_of_calls`).

Every refusal has the same shape: the kind of the request, that it failed, and
the zero of the payload (`Handler.refusal_header`). Saying something has no
refusal, since it is never answered.

## Main definitions

* `Handler.calls`: What a handler asks of the store, in order.
* `Handler.refusal?`: How a handler refuses.
* `Handler.named?`: The channel that a request names.
* `Course`: What can become of a request.

## Theorems

* `Handler.refusal_header`: What stands in a refusal.
* `Handler.run_course`: Every request takes one of the courses.
* `Course.store_eq`: The store after a request.
* `Course.drops`: What names no channel of the server is dropped.
* `dispatch_cases`, `dispatch_handled`: A packet is dropped, or handled.
* `Handler.run_of_calls`: A handler knows the store by its calls only.
-/

namespace ChatHost

section Calling

variable {σ : Type} [Gateway σ]

/-- Whether an operation asks for the channel of an id. -/
def StoreRequest.isLookup : StoreRequest → Bool
  | selectChannels filter => filter.id.isSome
  | _ => false

namespace Handler

/-- The operation that tells whether a channel is one of the server. -/
def lookup (server : ServerId) (channel : ChannelId) : StoreRequest :=
  .selectChannels { id := some channel, server := some server }

/-- The channel that a request names, if it names one and can be read. -/
def named? (handler : Handler) (payload : Bytes) : Option ChannelId :=
  match handler with
  | openChannel => ((Payload.decode : Decoder OpenRequest).value payload).toOption.map (·.channel)
  | say => ((Payload.decode : Decoder SayRequest).value payload).toOption.map (·.channel)
  | join | serverInfo | membership | adminMenu | createChannel => none

theorem named?_open {payload : Bytes} {channel : ChannelId}
    (hdecode : (Payload.decode : Decoder OpenRequest).value payload = .ok ⟨channel⟩) :
    openChannel.named? payload = some channel := by
  rw [named?, hdecode]
  rfl

theorem named?_say {payload : Bytes} {channel : ChannelId} {text : String}
    (hdecode : (Payload.decode : Decoder SayRequest).value payload = .ok ⟨channel, text⟩) :
    say.named? payload = some channel := by
  rw [named?, hdecode]
  rfl

/-- What a handler asks of the store, in order. It asks no further once it has
    decided to drop or to refuse the request. -/
def calls (handler : Handler) (server : ServerId) (request : Request) (w : World σ) :
    List StoreRequest :=
  match handler with
  | join =>
    match (Payload.decode : Decoder JoinRequest).value request.payload with
    | .error _ => []
    | .ok ⟨username⟩ =>
      if username.isBlank then [] else [.insertUser server request.peer.ip username]
  | serverInfo | adminMenu => [.selectChannels { server := some server }]
  | openChannel =>
    match (Payload.decode : Decoder OpenRequest).value request.payload with
    | .error _ => []
    | .ok ⟨channel⟩ =>
      lookup server channel ::
        match w.ownsChannel server channel, w.live.presence.find? request.peer with
        | .ok true, some _ => [.selectMessages { channel := some channel }]
        | _, _ => []
  | say =>
    match (Payload.decode : Decoder SayRequest).value request.payload with
    | .error _ => []
    | .ok ⟨channel, text⟩ =>
      match w.live.presence.find? request.peer with
      | none => []
      | some sender =>
        if !sender.online then []
        else
          lookup server channel ::
            match w.ownsChannel server channel with
            | .ok true => [.insertMessage text channel sender.id]
            | _ => []
  | membership => [.selectUsers { server := some server, ip := some request.peer.ip }]
  | createChannel =>
    match (Payload.decode : Decoder CreateRequest).value request.payload with
    | .error _ => []
    | .ok ⟨name⟩ => if name.isBlank then [] else [.insertChannel name server]

end Handler

end Calling

namespace Handler

/-- The answer of a handler that refuses, if it answers at all. -/
def refusal? : Handler → Option Bytes
  | join => some (refusalPacket Unit .join)
  | serverInfo => some (refusalPacket (List Channel) .serverInfo)
  | openChannel => some (refusalPacket (List MessageRow) .openChannel)
  | say => none
  | membership => some (refusalPacket Membership .membership)
  | adminMenu => some (refusalPacket (List Channel) .adminMenu)
  | createChannel => some (refusalPacket Unit .createChannel)

/-- The bytes of the zero payload that a refusal carries. -/
def zeroPayload : Handler → Bytes
  | join | say | createChannel => Payload.encode (Payload.zero : Unit)
  | serverInfo | adminMenu => Payload.encode (Payload.zero : List Channel)
  | openChannel => Payload.encode (Payload.zero : List MessageRow)
  | membership => Payload.encode (Payload.zero : Membership)

/-- A refusal says what it refuses and that it does, and carries nothing. -/
theorem refusal_header {handler : Handler} {refusal : Bytes}
    (h : handler.refusal? = some refusal) :
    ResponseHeader.decode refusal = (.ok ⟨handler.kind, .fail⟩, handler.zeroPayload) := by
  cases handler <;> simp only [refusal?, Option.some.injEq, reduceCtorEq] at h <;>
    rw [← h] <;> rfl

end Handler

/-- What can become of a request: the handler, what it asks of the store, what it
    replies, and the world after it. -/
inductive Course {σ : Type} [Gateway σ] (server : ServerId) (request : Request) (w : World σ) :
    Handler → List StoreRequest → Except HandlerError Reply → World σ → Prop
  /-- It is dropped before the store is asked. -/
  | dropped {handler : Handler} {error : HandlerError} :
      Course server request w handler [] (.error error) w
  /-- The name that it brings is blank, so it is refused before the store is asked. -/
  | refused {handler : Handler} {refusal : Bytes}
      (hhandler : handler = .join ∨ handler = .createChannel)
      (hrefusal : handler.refusal? = some refusal) :
      Course server request w handler [] (.ok (.answer refusal)) w
  /-- The store would not have the caller as a member. -/
  | joinFailed {username : Name} {fault : Fault} {store : σ}
      (hdecode : (Payload.decode : Decoder JoinRequest).value request.payload = .ok ⟨username⟩)
      (hstore :
        Gateway.insertUser w.store server request.peer.ip username = (.error fault, store)) :
      Course server request w .join [.insertUser server request.peer.ip username]
        (.ok (.answer (refusalPacket Unit .join))) { w with store := store }
  /-- The caller is a member, and tracked. -/
  | joined {username : Name} {record : UserRecord} {store : σ}
      (hdecode : (Payload.decode : Decoder JoinRequest).value request.payload = .ok ⟨username⟩)
      (hstore : Gateway.insertUser w.store server request.peer.ip username = (.ok record, store)) :
      Course server request w .join [.insertUser server request.peer.ip username]
        (.ok (.answer (responsePacket .join .success ())))
        (World.setPresence { w with store := store }
          (w.live.presence.join record request.peer request.now))
  /-- The channels of the server cannot be read. -/
  | listFailed {handler : Handler} {fault : Fault}
      (hhandler : handler = .serverInfo ∨ handler = .adminMenu)
      (hstore : Gateway.selectChannels w.store { server := some server } = .error fault) :
      Course server request w handler [.selectChannels { server := some server }]
        (.ok (.answer (refusalPacket (List Channel) handler.kind))) w
  /-- The channels of the server are listed. -/
  | listed {handler : Handler} {channels : List Channel}
      (hhandler : handler = .serverInfo ∨ handler = .adminMenu)
      (hstore : Gateway.selectChannels w.store { server := some server } = .ok channels) :
      Course server request w handler [.selectChannels { server := some server }]
        (.ok (.answer (responsePacket handler.kind .success channels))) w
  /-- It cannot be found out whether a channel is one of the server. -/
  | lookupFailed {handler : Handler} {channel : ChannelId} {fault : Fault}
      (hnamed : handler.named? request.payload = some channel)
      (howns : w.ownsChannel server channel = .error fault) :
      Course server request w handler [Handler.lookup server channel]
        (.error (.storeFailure fault)) w
  /-- A channel is none of the server. -/
  | foreign {handler : Handler} {channel : ChannelId}
      (hnamed : handler.named? request.payload = some channel)
      (howns : w.ownsChannel server channel = .ok false) :
      Course server request w handler [Handler.lookup server channel]
        (.error (.foreignChannel channel server)) w
  /-- Nobody is known who could open a channel of the server. -/
  | openerUnknown {channel : ChannelId}
      (hdecode : (Payload.decode : Decoder OpenRequest).value request.payload = .ok ⟨channel⟩)
      (howns : w.ownsChannel server channel = .ok true)
      (hfound : w.live.presence.find? request.peer = none) :
      Course server request w .openChannel [Handler.lookup server channel]
        (.error (.unknownUser request.peer)) w
  /-- A user looks at a channel of the server, but its history cannot be read. -/
  | historyFailed {channel : ChannelId} {user : TrackedUser} {fault : Fault}
      (hdecode : (Payload.decode : Decoder OpenRequest).value request.payload = .ok ⟨channel⟩)
      (howns : w.ownsChannel server channel = .ok true)
      (hfound : w.live.presence.find? request.peer = some user)
      (hstore : Gateway.selectMessages w.store { channel := some channel } = .error fault) :
      Course server request w .openChannel
        [Handler.lookup server channel, .selectMessages { channel := some channel }]
        (.ok (.answer (refusalPacket (List MessageRow) .openChannel)))
        (w.setPresence ((w.live.presence.setChannel user.id channel).markOnline user.id
          request.peer request.now))
  /-- A user looks at a channel of the server, and gets its history. -/
  | opened {channel : ChannelId} {user : TrackedUser} {messages : List Message}
      (hdecode : (Payload.decode : Decoder OpenRequest).value request.payload = .ok ⟨channel⟩)
      (howns : w.ownsChannel server channel = .ok true)
      (hfound : w.live.presence.find? request.peer = some user)
      (hstore : Gateway.selectMessages w.store { channel := some channel } = .ok messages) :
      Course server request w .openChannel
        [Handler.lookup server channel, .selectMessages { channel := some channel }]
        (.ok (.answer (responsePacket .openChannel .success (messages.map Message.row))))
        (w.setPresence ((w.live.presence.setChannel user.id channel).markOnline user.id
          request.peer request.now))
  /-- The store would not have a message. -/
  | sayFailed {channel : ChannelId} {text : String} {sender : TrackedUser} {fault : Fault}
      {store : σ}
      (hdecode : (Payload.decode : Decoder SayRequest).value request.payload = .ok ⟨channel, text⟩)
      (howns : w.ownsChannel server channel = .ok true)
      (hfound : w.live.presence.find? request.peer = some sender) (honline : sender.online = true)
      (hstore : Gateway.insertMessage w.store text channel sender.id = (.error fault, store)) :
      Course server request w .say
        [Handler.lookup server channel, .insertMessage text channel sender.id]
        (.error (.storeFailure fault)) { w with store := store }
  /-- A message in a channel of the server is stored and queued. -/
  | said {channel : ChannelId} {text : String} {sender : TrackedUser} {receipt : Receipt}
      {store : σ}
      (hdecode : (Payload.decode : Decoder SayRequest).value request.payload = .ok ⟨channel, text⟩)
      (howns : w.ownsChannel server channel = .ok true)
      (hfound : w.live.presence.find? request.peer = some sender) (honline : sender.online = true)
      (hstore : Gateway.insertMessage w.store text channel sender.id = (.ok receipt, store)) :
      Course server request w .say
        [Handler.lookup server channel, .insertMessage text channel sender.id]
        (.ok .silent)
        { store := store
          live := {
            presence := w.live.presence.markOnline sender.id request.peer request.now
            queue := w.live.queue ++ [receipt.message channel sender.id text] } }
  /-- The rights of the caller cannot be read. -/
  | rightsFailed {fault : Fault}
      (hstore : Gateway.selectUsers w.store
        { server := some server, ip := some request.peer.ip } = .error fault) :
      Course server request w .membership
        [.selectUsers { server := some server, ip := some request.peer.ip }]
        (.ok (.answer (refusalPacket Membership .membership))) w
  /-- The store does not know the caller. -/
  | callerUnknown
      (hstore : Gateway.selectUsers w.store
        { server := some server, ip := some request.peer.ip } = .ok []) :
      Course server request w .membership
        [.selectUsers { server := some server, ip := some request.peer.ip }]
        (.error (.unknownUser request.peer)) w
  /-- The caller is told their rights. -/
  | rightsTold {user : UserRecord} {others : List UserRecord}
      (hstore : Gateway.selectUsers w.store
        { server := some server, ip := some request.peer.ip } = .ok (user :: others)) :
      Course server request w .membership
        [.selectUsers { server := some server, ip := some request.peer.ip }]
        (.ok (.answer (responsePacket .membership .success (Membership.mk user.role.isAdmin)))) w
  /-- The store would not have a channel. -/
  | createFailed {name : Name} {fault : Fault} {store : σ}
      (hdecode : (Payload.decode : Decoder CreateRequest).value request.payload = .ok ⟨name⟩)
      (hstore : Gateway.insertChannel w.store name server = (.error fault, store)) :
      Course server request w .createChannel [.insertChannel name server]
        (.ok (.answer (refusalPacket Unit .createChannel))) { w with store := store }
  /-- The server has one more channel. -/
  | created {name : Name} {channel : Channel} {store : σ}
      (hdecode : (Payload.decode : Decoder CreateRequest).value request.payload = .ok ⟨name⟩)
      (hstore : Gateway.insertChannel w.store name server = (.ok channel, store)) :
      Course server request w .createChannel [.insertChannel name server]
        (.ok (.answer (responsePacket .createChannel .success ()))) { w with store := store }

section Running

variable {σ : Type} [Gateway σ] {server : ServerId} {request : Request} {w : World σ}

/-- Every request takes one of the courses. -/
theorem Handler.run_course (handler : Handler) (server : ServerId) (request : Request)
    (w : World σ) :
    Course server request w handler (handler.calls server request w)
      (handler.run server request w).1 (handler.run server request w).2 := by
  cases handler with
  | join =>
      rcases hdecode : (Payload.decode : Decoder JoinRequest).value request.payload with
        error | ⟨⟨username⟩⟩
      · simp only [calls, run, runJoin, hdecode]
        exact .dropped
      · by_cases hblank : username.isBlank = true
        · simp only [calls, run, runJoin, hdecode, if_pos hblank]
          exact .refused (Or.inl rfl) rfl
        · simp only [calls, run, runJoin, hdecode, if_neg hblank]
          rcases hstore : Gateway.insertUser w.store server request.peer.ip username with
            ⟨fault | record, store⟩
          · exact .joinFailed hdecode hstore
          · exact .joined hdecode hstore
  | serverInfo =>
      simp only [calls, run, runChannelList]
      rcases hstore : Gateway.selectChannels w.store { server := some server } with
        fault | channels
      · exact .listFailed (Or.inl rfl) hstore
      · exact .listed (Or.inl rfl) hstore
  | openChannel =>
      rcases hdecode : (Payload.decode : Decoder OpenRequest).value request.payload with
        error | ⟨⟨channel⟩⟩
      · simp only [calls, run, runOpenChannel, hdecode]
        exact .dropped
      · have hnamed := named?_open hdecode
        rcases howns : w.ownsChannel server channel with fault | _ | _
        · simp only [calls, run, runOpenChannel, hdecode, howns]
          exact .lookupFailed hnamed howns
        · simp only [calls, run, runOpenChannel, hdecode, howns]
          exact .foreign hnamed howns
        · rcases hfound : w.live.presence.find? request.peer with _ | user
          · simp only [calls, run, runOpenChannel, hdecode, howns, hfound]
            exact .openerUnknown hdecode howns hfound
          · simp only [calls, run, runOpenChannel, hdecode, howns, hfound, World.setPresence]
            rcases hstore : Gateway.selectMessages w.store { channel := some channel } with
              fault | messages
            · exact .historyFailed hdecode howns hfound hstore
            · exact .opened hdecode howns hfound hstore
  | say =>
      rcases hdecode : (Payload.decode : Decoder SayRequest).value request.payload with
        error | ⟨channel, text⟩
      · simp only [calls, run, runSay, hdecode]
        exact .dropped
      · have hnamed := named?_say hdecode
        rcases hfound : w.live.presence.find? request.peer with _ | sender
        · simp only [calls, run, runSay, hdecode, hfound]
          exact .dropped
        · by_cases hoffline : (!sender.online) = true
          · simp only [calls, run, runSay, hdecode, hfound, if_pos hoffline]
            exact .dropped
          · rcases howns : w.ownsChannel server channel with fault | _ | _
            · simp only [calls, run, runSay, hdecode, hfound, if_neg hoffline, howns]
              exact .lookupFailed hnamed howns
            · simp only [calls, run, runSay, hdecode, hfound, if_neg hoffline, howns]
              exact .foreign hnamed howns
            · have honline : sender.online = true := by simpa using hoffline
              simp only [calls, run, runSay, hdecode, hfound, if_neg hoffline, howns]
              rcases hstore : Gateway.insertMessage w.store text channel sender.id with
                ⟨fault | receipt, store⟩
              · exact .sayFailed hdecode howns hfound honline hstore
              · exact .said hdecode howns hfound honline hstore
  | membership =>
      simp only [calls, run, runMembership]
      rcases hstore : Gateway.selectUsers w.store
        { server := some server, ip := some request.peer.ip } with fault | _ | ⟨user, others⟩
      · exact .rightsFailed hstore
      · exact .callerUnknown hstore
      · exact .rightsTold hstore
  | adminMenu =>
      simp only [calls, run, runChannelList]
      rcases hstore : Gateway.selectChannels w.store { server := some server } with
        fault | channels
      · exact .listFailed (Or.inr rfl) hstore
      · exact .listed (Or.inr rfl) hstore
  | createChannel =>
      rcases hdecode : (Payload.decode : Decoder CreateRequest).value request.payload with
        error | ⟨⟨name⟩⟩
      · simp only [calls, run, runCreateChannel, hdecode]
        exact .dropped
      · by_cases hblank : name.isBlank = true
        · simp only [calls, run, runCreateChannel, hdecode, if_pos hblank]
          exact .refused (Or.inr rfl) rfl
        · simp only [calls, run, runCreateChannel, hdecode, if_neg hblank]
          rcases hstore : Gateway.insertChannel w.store name server with ⟨fault | channel, store⟩
          · exact .createFailed hdecode hstore
          · exact .created hdecode hstore

/-- The store after a request has seen its calls and nothing else. -/
theorem Course.store_eq {handler : Handler} {calls : List StoreRequest}
    {reply : Except HandlerError Reply} {w' : World σ}
    (h : Course server request w handler calls reply w') :
    w'.store = StoreRequest.runAll w.store calls := by
  cases h with
  | joinFailed hdecode hstore =>
      simp only [StoreRequest.runAll, List.foldl, StoreRequest.run, answered, hstore]
  | joined hdecode hstore =>
      simp only [StoreRequest.runAll, List.foldl, StoreRequest.run, answered, hstore,
        World.setPresence]
  | sayFailed hdecode howns hfound honline hstore =>
      simp only [StoreRequest.runAll, List.foldl, Handler.lookup, StoreRequest.run, answered,
        hstore]
  | said hdecode howns hfound honline hstore =>
      simp only [StoreRequest.runAll, List.foldl, Handler.lookup, StoreRequest.run, answered,
        hstore]
  | createFailed hdecode hstore =>
      simp only [StoreRequest.runAll, List.foldl, StoreRequest.run, answered, hstore]
  | created hdecode hstore =>
      simp only [StoreRequest.runAll, List.foldl, StoreRequest.run, answered, hstore]
  | _ => rfl

/-- A request that names a channel which is not known to be one of the server is
    dropped, whoever sends it. -/
theorem Course.drops {handler : Handler} {calls : List StoreRequest}
    {reply : Except HandlerError Reply} {w' : World σ} {channel : ChannelId}
    (h : Course server request w handler calls reply w')
    (hnamed : handler.named? request.payload = some channel)
    (hforeign : w.ownsChannel server channel ≠ .ok true) :
    (∃ error, reply = .error error) ∧ w' = w := by
  -- What was opened or said in was a channel of the server, and is the one named.
  have hopen : ∀ {other : ChannelId},
      (Payload.decode : Decoder OpenRequest).value request.payload = .ok ⟨other⟩ →
      Handler.openChannel.named? request.payload = some channel →
      w.ownsChannel server other ≠ .ok true := by
    intro other hdecode hsame
    rw [Option.some.inj ((Handler.named?_open hdecode).symm.trans hsame)]
    exact hforeign
  have hsay : ∀ {other : ChannelId} {text : String},
      (Payload.decode : Decoder SayRequest).value request.payload = .ok ⟨other, text⟩ →
      Handler.say.named? request.payload = some channel →
      w.ownsChannel server other ≠ .ok true := by
    intro other text hdecode hsame
    rw [Option.some.inj ((Handler.named?_say hdecode).symm.trans hsame)]
    exact hforeign
  cases h with
  | dropped => exact ⟨⟨_, rfl⟩, rfl⟩
  | lookupFailed _ _ => exact ⟨⟨_, rfl⟩, rfl⟩
  | foreign _ _ => exact ⟨⟨_, rfl⟩, rfl⟩
  | openerUnknown hdecode howns _ => exact absurd howns (hopen hdecode hnamed)
  | historyFailed hdecode howns _ _ => exact absurd howns (hopen hdecode hnamed)
  | opened hdecode howns _ _ => exact absurd howns (hopen hdecode hnamed)
  | sayFailed hdecode howns _ _ _ => exact absurd howns (hsay hdecode hnamed)
  | said hdecode howns _ _ _ => exact absurd howns (hsay hdecode hnamed)
  | refused hhandler _ => rcases hhandler with rfl | rfl <;> simp [Handler.named?] at hnamed
  | listFailed hhandler _ => rcases hhandler with rfl | rfl <;> simp [Handler.named?] at hnamed
  | listed hhandler _ => rcases hhandler with rfl | rfl <;> simp [Handler.named?] at hnamed
  | joinFailed _ _ => simp [Handler.named?] at hnamed
  | joined _ _ => simp [Handler.named?] at hnamed
  | rightsFailed _ => simp [Handler.named?] at hnamed
  | callerUnknown _ => simp [Handler.named?] at hnamed
  | rightsTold _ => simp [Handler.named?] at hnamed
  | createFailed _ _ => simp [Handler.named?] at hnamed
  | created _ _ => simp [Handler.named?] at hnamed

end Running

section Dispatching

variable {σ : Type} [Gateway σ]

-- The handler of a kind of request is made for that kind.
theorem HandlerTable.kind_of_find?_standard {kind : RequestKind} {handler : Handler}
    (h : standard.find? kind = some handler) : handler.kind = kind := by
  rw [find?, Option.map_eq_some_iff] at h
  -- Every entry of the table was made from its handler.
  rcases h with ⟨⟨kind', handler'⟩, hfound, rfl⟩
  have hkind := List.find?_some hfound
  have hmem := List.mem_of_find?_eq_some hfound
  rw [List.mem_reverse, standard, List.mem_map] at hmem
  rcases hmem with ⟨handler, -, hentry⟩
  rcases Prod.mk.inj hentry with ⟨rfl, rfl⟩
  exact of_decide_eq_true hkind

-- Every handler serves its kind.
theorem HandlerTable.find?_standard (handler : Handler) :
    standard.find? handler.kind = some handler := by
  cases handler <;> rfl

-- What is answered is what the handler answered.
theorem Dispatched.answer?_handled {kind : RequestKind} {result : Except HandlerError Reply}
    {packet : Bytes} (h : (Dispatched.handled kind result).answer? = some packet) :
    result = .ok (.answer packet) := by
  unfold answer? at h
  split at h
  · next heq =>
    rcases Dispatched.handled.inj heq with ⟨-, hresult⟩
    rw [hresult, Option.some.inj h]
  · simp at h

/-- What becomes of a packet with a handler is what the handler does, after the
    sign of life. -/
theorem dispatch_handled (server : ServerId) (peer : SocketAddress) {packet body : Bytes}
    {handler : Handler} (hheader : RequestHeader.decode packet = (.ok ⟨handler.kind⟩, body))
    (now : Instant) (w : World σ) :
    dispatch .standard server peer packet now w =
      (.handled handler.kind
          (handler.run server { peer, payload := body, now } (w.touch peer now)).1,
        (handler.run server { peer, payload := body, now } (w.touch peer now)).2) := by
  rw [dispatch, hheader]
  simp only [HandlerTable.find?_standard]

/-- A packet is dropped as if it had never come, or handled. -/
theorem dispatch_cases (server : ServerId) (peer : SocketAddress) (packet : Bytes)
    (now : Instant) (w : World σ) :
    ((dispatch .standard server peer packet now w).1.answer? = none ∧
        (dispatch .standard server peer packet now w).2 = w) ∨
      ∃ (handler : Handler) (body : Bytes),
        RequestHeader.decode packet = (.ok ⟨handler.kind⟩, body) := by
  rcases hheader : RequestHeader.decode packet with ⟨error | ⟨⟨kind⟩⟩, body⟩
  · rw [dispatch, hheader]
    exact Or.inl ⟨rfl, rfl⟩
  · rcases hfound : HandlerTable.standard.find? kind with _ | handler
    · refine Or.inl ?_
      rw [dispatch, hheader]
      simp only [hfound]
      exact ⟨rfl, trivial⟩
    · rw [← HandlerTable.kind_of_find?_standard hfound]
      exact Or.inr ⟨handler, body, rfl⟩

end Dispatching

section Agreeing

-- Results that are one answer are one result.
theorem result_eq_of_answer {α : Type} {wrap : α → StoreAnswer}
    (hwrap : ∀ a b, wrap a = wrap b → a = b) {x y : Except Fault α}
    (h : x.map wrap = y.map wrap) : x = y := by
  cases x with
  | error fault =>
      cases y with
      | error other => simpa [Except.map] using h
      | ok b => simp [Except.map] at h
  | ok a =>
      cases y with
      | error other => simp [Except.map] at h
      | ok b =>
          have hab := hwrap a b (by simpa [Except.map] using h)
          rw [hab]

variable {σ τ : Type} [Gateway σ] [Gateway τ]

-- A look-up that is answered alike tells the same.
theorem ownsChannel_of_lookup {w : World σ} {v : World τ} {server : ServerId}
    {channel : ChannelId}
    (h : ((Handler.lookup server channel).run v.store).1 =
      ((Handler.lookup server channel).run w.store).1) :
    v.ownsChannel server channel = w.ownsChannel server channel := by
  have hfound := result_eq_of_answer (fun _ _ => StoreAnswer.channels.inj) h
  rw [World.ownsChannel, World.ownsChannel, hfound]

/-- A handler knows the store by its calls only: with the same live state, and
    with the same results for these calls, it does the same on any other store. -/
theorem Handler.run_of_calls (handler : Handler) (server : ServerId) (request : Request)
    {w : World σ} {v : World τ} (hlive : v.live = w.live)
    (hcalls : ∀ call ∈ handler.calls server request w,
      (call.run v.store).1 = (call.run w.store).1) :
    (handler.run server request v).1 = (handler.run server request w).1 ∧
      (handler.run server request v).2.live = (handler.run server request w).2.live := by
  cases handler with
  | join =>
      rcases hdecode : (Payload.decode : Decoder JoinRequest).value request.payload with
        error | ⟨⟨username⟩⟩
      · simp [run, runJoin, hdecode, Handled.drop, hlive]
      · by_cases hblank : username.isBlank = true
        · simp [run, runJoin, hdecode, hblank, Handled.answer, hlive]
        · have hcall := hcalls (.insertUser server request.peer.ip username)
            (by simp [calls, hdecode, hblank])
          have hresult := result_eq_of_answer (fun _ _ => StoreAnswer.user.inj) hcall
          rcases hv : Gateway.insertUser v.store server request.peer.ip username with
            ⟨result, store⟩
          rcases hw : Gateway.insertUser w.store server request.peer.ip username with
            ⟨result', store'⟩
          rw [hv, hw] at hresult
          cases hresult
          cases result <;>
            simp [run, runJoin, hdecode, hblank, hv, hw, Handled.answer, World.setPresence, hlive]
  | serverInfo =>
      have hcall := hcalls (.selectChannels { server := some server }) (by simp [calls])
      have hresult := result_eq_of_answer (fun _ _ => StoreAnswer.channels.inj) hcall
      simp only [run, runChannelList, hresult]
      split <;> exact ⟨rfl, hlive⟩
  | openChannel =>
      rcases hdecode : (Payload.decode : Decoder OpenRequest).value request.payload with
        error | ⟨⟨channel⟩⟩
      · simp [run, runOpenChannel, hdecode, Handled.drop, hlive]
      · have howns := ownsChannel_of_lookup (hcalls (lookup server channel)
          (by simp [calls, hdecode]))
        rcases hw : w.ownsChannel server channel with fault | _ | _
        · simp [run, runOpenChannel, hdecode, howns, hw, Handled.drop, hlive]
        · simp [run, runOpenChannel, hdecode, howns, hw, Handled.drop, hlive]
        · rcases hfound : w.live.presence.find? request.peer with _ | user
          · simp [run, runOpenChannel, hdecode, howns, hw, hlive, hfound, Handled.drop]
          · have hcall := hcalls (.selectMessages { channel := some channel })
              (by simp [calls, hdecode, hw, hfound])
            have hresult := result_eq_of_answer (fun _ _ => StoreAnswer.messages.inj) hcall
            simp only [run, runOpenChannel, hdecode, howns, hw, hlive, hfound, World.setPresence,
              hresult]
            split <;> exact ⟨rfl, rfl⟩
  | say =>
      rcases hdecode : (Payload.decode : Decoder SayRequest).value request.payload with
        error | ⟨channel, text⟩
      · simp [run, runSay, hdecode, Handled.drop, hlive]
      · rcases hfound : w.live.presence.find? request.peer with _ | sender
        · simp [run, runSay, hdecode, hlive, hfound, Handled.drop]
        · by_cases honline : sender.online = true
          · have howns := ownsChannel_of_lookup (hcalls (lookup server channel)
              (by simp [calls, hdecode, hfound, honline]))
            rcases hw : w.ownsChannel server channel with fault | _ | _
            · simp [run, runSay, hdecode, hlive, hfound, honline, howns, hw, Handled.drop]
            · simp [run, runSay, hdecode, hlive, hfound, honline, howns, hw, Handled.drop]
            · have hcall := hcalls (.insertMessage text channel sender.id)
                (by simp [calls, hdecode, hfound, honline, hw])
              have hresult := result_eq_of_answer (fun _ _ => StoreAnswer.receipt.inj) hcall
              rcases hv : Gateway.insertMessage v.store text channel sender.id with
                ⟨result, store⟩
              rcases hw' : Gateway.insertMessage w.store text channel sender.id with
                ⟨result', store'⟩
              rw [hv, hw'] at hresult
              cases hresult
              cases result <;>
                simp [run, runSay, hdecode, hlive, hfound, honline, howns, hw, hv, hw',
                  Handled.drop, Handled.silent]
          · simp [run, runSay, hdecode, hlive, hfound, honline, Handled.drop]
  | membership =>
      have hcall := hcalls
        (.selectUsers { server := some server, ip := some request.peer.ip }) (by simp [calls])
      have hresult := result_eq_of_answer (fun _ _ => StoreAnswer.users.inj) hcall
      simp only [run, runMembership, hresult]
      split <;> exact ⟨rfl, hlive⟩
  | adminMenu =>
      have hcall := hcalls (.selectChannels { server := some server }) (by simp [calls])
      have hresult := result_eq_of_answer (fun _ _ => StoreAnswer.channels.inj) hcall
      simp only [run, runChannelList, hresult]
      split <;> exact ⟨rfl, hlive⟩
  | createChannel =>
      rcases hdecode : (Payload.decode : Decoder CreateRequest).value request.payload with
        error | ⟨⟨name⟩⟩
      · simp [run, runCreateChannel, hdecode, Handled.drop, hlive]
      · by_cases hblank : name.isBlank = true
        · simp [run, runCreateChannel, hdecode, hblank, Handled.answer, hlive]
        · have hcall := hcalls (.insertChannel name server) (by simp [calls, hdecode, hblank])
          have hresult := result_eq_of_answer (fun _ _ => StoreAnswer.channel.inj) hcall
          rcases hv : Gateway.insertChannel v.store name server with ⟨result, store⟩
          rcases hw : Gateway.insertChannel w.store name server with ⟨result', store'⟩
          rw [hv, hw] at hresult
          cases hresult
          cases result <;>
            simp [run, runCreateChannel, hdecode, hblank, hv, hw, Handled.answer, hlive]

end Agreeing

end ChatHost
