import ChatHost.Proofs.Presence.Lookup
import ChatHost.Proofs.Server.Courses
import ChatHost.Proofs.Store.Lawful
import ChatHost.Server.Heartbeat

/-!
# What Packets Do

Everything that a packet can do to the world of a server, said once.

Handlers differ in what they read and answer; to the world they can do seven
things, and most of them do only one. Whoever proves that something survives
every packet goes through these seven; what is asked and answered on the way is
a matter of the courses, from which they come.

What is done comes with the reasons that later matter: who was found behind the
address, that a channel is one of the server, and what the store returned. The
reasons for a refusal are left out.

## Main definitions

* `Move`: What a handler can do to the world.

## Theorems

* `Handler.run_move`: A handler does nothing else.
* `dispatch_moves`: Nor does a packet, its sign of life apart.
* `dispatch_opening`: What a known user gets who asks for a channel of the server.
* `Move.grows`, `dispatch_grows`: The store only grows.
* `Move.adds`, `dispatch_adds`: What is stored is queued, and nothing else is.
* `Course.enrolls`: Nobody is tracked who was not, but who joins.
* `runOpenChannel_granted`: A channel is opened with all that was said in it.
-/

namespace ChatHost

open LawfulGateway

/-- What a handler can do to the world. -/
inductive Move {σ : Type} [Gateway σ] (server : ServerId) (request : Request) (w : World σ) :
    Handler → World σ → Prop
  /-- It does nothing. -/
  | stayed {handler : Handler} : Move server request w handler w
  /-- The store would not have the caller as a member. -/
  | joinRefused {username : Name} {fault : Fault} {store : σ}
      (hstore :
        Gateway.insertUser w.store server request.peer.ip username = (.error fault, store)) :
      Move server request w .join { w with store := store }
  /-- The caller is a member, and tracked. -/
  | joined {username : Name} {record : UserRecord} {store : σ}
      (hstore : Gateway.insertUser w.store server request.peer.ip username = (.ok record, store)) :
      Move server request w .join (World.setPresence { w with store := store }
        (w.live.presence.join record request.peer request.now))
  /-- A channel was added to the store, or could not be. -/
  | created {name : Name} {result : Except Fault Channel} {store : σ}
      (hstore : Gateway.insertChannel w.store name server = (result, store)) :
      Move server request w .createChannel { w with store := store }
  /-- A user looks at a channel of the server. -/
  | opened {channel : ChannelId} {user : TrackedUser}
      (howns : w.ownsChannel server channel = .ok true)
      (hfound : w.live.presence.find? request.peer = some user) :
      Move server request w .openChannel (w.setPresence
        ((w.live.presence.setChannel user.id channel).markOnline user.id request.peer request.now))
  /-- The store would not have a message. -/
  | sayRefused {text : String} {channel : ChannelId} {sender : UserId} {fault : Fault} {store : σ}
      (hstore : Gateway.insertMessage w.store text channel sender = (.error fault, store)) :
      Move server request w .say { w with store := store }
  /-- A message in a channel of the server is stored and queued. -/
  | said {text : String} {channel : ChannelId} {sender : TrackedUser} {receipt : Receipt}
      {store : σ} (howns : w.ownsChannel server channel = .ok true)
      (hfound : w.live.presence.find? request.peer = some sender)
      (hstore : Gateway.insertMessage w.store text channel sender.id = (.ok receipt, store)) :
      Move server request w .say
        { store := store
          live := {
            presence := w.live.presence.markOnline sender.id request.peer request.now
            queue := w.live.queue ++ [receipt.message channel sender.id text] } }

section Handling

variable {σ : Type} [Gateway σ]

-- Every course of a request is a move.
theorem Course.move {server : ServerId} {request : Request} {w w' : World σ} {handler : Handler}
    {calls : List StoreRequest} {reply : Except HandlerError Reply}
    (h : Course server request w handler calls reply w') : Move server request w handler w' := by
  cases h with
  | joinFailed hdecode hstore => exact .joinRefused hstore
  | joined hdecode hstore => exact .joined hstore
  | historyFailed hdecode howns hfound hstore => exact .opened howns hfound
  | opened hdecode howns hfound hstore => exact .opened howns hfound
  | sayFailed hdecode howns hfound honline hstore => exact .sayRefused hstore
  | said hdecode howns hfound honline hstore => exact .said howns hfound hstore
  | createFailed hdecode hstore => exact .created hstore
  | created hdecode hstore => exact .created hstore
  | _ => exact .stayed

/-- A handler does nothing that is no move. -/
theorem Handler.run_move (handler : Handler) (server : ServerId) (request : Request)
    (w : World σ) : Move server request w handler (handler.run server request w).2 :=
  (handler.run_course server request w).move

/-- What a packet does: nothing, or a sign of life and then what its handler can
    do. -/
theorem dispatch_moves (server : ServerId) (peer : SocketAddress) (packet : Bytes)
    (now : Instant) (w : World σ) :
    (dispatch .standard server peer packet now w).2 = w ∨
      ∃ (handler : Handler) (payload : Bytes),
        RequestHeader.decode packet = (.ok ⟨handler.kind⟩, payload) ∧
        Move server { peer, payload, now } (w.touch peer now) handler
          (dispatch .standard server peer packet now w).2 := by
  rcases dispatch_cases server peer packet now w with ⟨-, hsame⟩ | ⟨handler, payload, hheader⟩
  · exact Or.inl hsame
  · refine Or.inr ⟨handler, payload, hheader, ?_⟩
    rw [dispatch_handled server peer hheader]
    exact handler.run_move server { peer, payload, now } (w.touch peer now)

omit [Gateway σ] in
-- A sign of life touches neither store nor queue.
theorem World.touch_eq (w : World σ) (peer : SocketAddress) (now : Instant) :
    ∃ presence, w.touch peer now = w.setPresence presence := by
  rw [touch]
  split
  · exact ⟨_, rfl⟩
  · exact ⟨w.live.presence, rfl⟩

omit [Gateway σ] in
@[simp] theorem World.touch_store (w : World σ) (peer : SocketAddress) (now : Instant) :
    (w.touch peer now).store = w.store := by
  rcases w.touch_eq peer now with ⟨presence, htouch⟩
  rw [htouch]
  rfl

omit [Gateway σ] in
@[simp] theorem World.touch_queue (w : World σ) (peer : SocketAddress) (now : Instant) :
    (w.touch peer now).live.queue = w.live.queue := by
  rcases w.touch_eq peer now with ⟨presence, htouch⟩
  rw [htouch]
  rfl

omit [Gateway σ] in
-- A sign of life adds nobody to those who are tracked.
theorem World.roster_touch (w : World σ) (peer : SocketAddress) (now : Instant) :
    (w.touch peer now).live.presence.roster = w.live.presence.roster := by
  rw [touch]
  split
  · exact Tracker.roster_touch _ _ _
  · rfl

-- Nor does it make a difference to which channels are those of the server.
theorem World.touch_ownsChannel (w : World σ) (peer : SocketAddress) (now : Instant)
    (server : ServerId) (channel : ChannelId) :
    (w.touch peer now).ownsChannel server channel = w.ownsChannel server channel := by
  rw [ownsChannel, touch_store, ownsChannel]

omit [Gateway σ] in
-- Whoever is behind an address is behind it after a sign of life from there.
theorem World.find?_touch {w : World σ} {peer : SocketAddress} {user : TrackedUser}
    (h : w.live.presence.find? peer = some user) (now : Instant) :
    ∃ found, (w.touch peer now).live.presence.find? peer = some found ∧ found.id = user.id := by
  rw [touch, h]
  exact Tracker.find?_touch h now

/-- A user who asks for a channel of the server looks at it from then on, and gets its
    history or, if this cannot be read, a refusal. -/
theorem dispatch_opening {server : ServerId} {peer : SocketAddress} {packet body : Bytes}
    {w : World σ} {channel : ChannelId} {user : TrackedUser}
    (hheader : RequestHeader.decode packet = (.ok ⟨.openChannel⟩, body))
    (hbody : (Payload.decode : Decoder OpenRequest).value body = .ok ⟨channel⟩)
    (hknown : w.live.presence.find? peer = some user)
    (howns : w.ownsChannel server channel = .ok true) (now : Instant) :
    dispatch .standard server peer packet now w =
      (.handled .openChannel (.ok (.answer
          (match Gateway.selectMessages w.store { channel := some channel } with
          | .ok messages => responsePacket .openChannel .success (messages.map Message.row)
          | .error _ => refusalPacket (List MessageRow) .openChannel))),
        w.setPresence ((w.live.presence.setChannel user.id channel).markOnline user.id peer
          now)) := by
  have hkind : RequestHeader.decode packet = (.ok ⟨Handler.openChannel.kind⟩, body) := hheader
  rcases World.find?_touch hknown now with ⟨found, hfound, hid⟩
  have htouch : w.touch peer now = w.setPresence (w.live.presence.touch user.id peer now) := by
    rw [World.touch, hknown]
  -- The handler notes again what the sign of life has told.
  have hagain : ((w.live.presence.touch user.id peer now).setChannel user.id channel).markOnline
      user.id peer now = (w.live.presence.setChannel user.id channel).markOnline user.id peer
        now := by
    rw [Tracker.openChannel_eq, Tracker.openChannel_eq]
    exact Tracker.modify_modify user.id _ fun _ => rfl
  rw [dispatch_handled server peer hkind now w, Handler.run, Handler.runOpenChannel]
  simp only [hbody, World.touch_ownsChannel, howns, hfound, hid]
  rw [htouch]
  simp only [World.setPresence, hagain]
  rcases Gateway.selectMessages w.store { channel := some channel } with fault | messages
  · rfl
  · rfl

end Handling

section Moving

variable {σ : Type} [Gateway σ] [LawfulGateway σ]
variable {server : ServerId} {request : Request} {w w' : World σ} {handler : Handler}

/-- Whatever a handler does, the store only grows. -/
theorem Move.grows (h : Move server request w handler w') (hw : Orderly w.store) :
    Grows w.store w'.store := by
  cases h with
  | stayed => exact Grows.refl hw
  | @joinRefused username _ _ hstore =>
      have hgrows := grows_insertUser hw server request.peer.ip username
      rwa [hstore] at hgrows
  | @joined username _ _ hstore =>
      have hgrows := grows_insertUser hw server request.peer.ip username
      rwa [hstore] at hgrows
  | @created name _ _ hstore =>
      have hgrows := grows_insertChannel hw name server
      rwa [hstore] at hgrows
  | opened _ _ => exact Grows.refl hw
  | @sayRefused text channel sender _ _ hstore =>
      have hgrows := grows_insertMessage hw text channel sender
      rwa [hstore] at hgrows
  | @said text channel sender _ _ _ _ hstore =>
      have hgrows := grows_insertMessage hw text channel sender.id
      rwa [hstore] at hgrows

/-- A packet makes the store grow, whatever is in it. -/
theorem dispatch_grows (server : ServerId) (hw : Orderly w.store) (peer : SocketAddress)
    (packet : Bytes) (now : Instant) :
    Grows w.store (dispatch .standard server peer packet now w).2.store := by
  rcases dispatch_moves server peer packet now w with hsame | ⟨handler, payload, -, hmove⟩
  · rw [hsame]
    exact Grows.refl hw
  · rcases w.touch_eq peer now with ⟨presence, htouch⟩
    rw [htouch] at hmove
    exact hmove.grows hw

/-- What a handler adds to the messages in the store is what it adds to the
    queue, and only saying something adds anything. -/
theorem Move.adds (h : Move server request w handler w') (hw : Orderly w.store) :
    ∃ added : List Message,
      (records w'.store).messages = (records w.store).messages ++ added ∧
      w'.live.queue = w.live.queue ++ added ∧ (added ≠ [] → handler = .say) := by
  -- All moves but one leave both lists alone.
  have hnothing : ∀ w' : World σ, (records w'.store).messages = (records w.store).messages →
      w'.live.queue = w.live.queue → ∃ added : List Message,
        (records w'.store).messages = (records w.store).messages ++ added ∧
        w'.live.queue = w.live.queue ++ added ∧ (added ≠ [] → handler = .say) := by
    intro w' hmessages hqueue
    refine ⟨[], ?_, ?_, fun hne => absurd rfl hne⟩
    · rw [hmessages, List.append_nil]
    · rw [hqueue, List.append_nil]
  cases h with
  | stayed => exact hnothing w rfl rfl
  | joinRefused hstore =>
      refine hnothing _ ?_ rfl
      rw [(insertUser_error hw hstore).2]
  | joined hstore =>
      refine hnothing _ ?_ rfl
      rcases insertUser_ok hw hstore with ⟨-, -, -, hrecords⟩
      have hmessages := congrArg Records.messages hrecords
      exact hmessages
  | @created _ result _ hstore =>
      refine hnothing _ ?_ rfl
      cases result with
      | error fault => rw [(insertChannel_error hw hstore).2]
      | ok channel => rw [(insertChannel_ok hw hstore).2.2]
  | opened _ _ => exact hnothing _ rfl rfl
  | sayRefused hstore =>
      refine hnothing _ ?_ rfl
      rw [(insertMessage_error hw hstore).2]
  | @said text channel sender receipt _ _ _ hstore =>
      refine ⟨[receipt.message channel sender.id text], ?_, rfl, fun _ => rfl⟩
      rw [(insertMessage_ok hw hstore).2]

/-- The same for a packet, which adds something only if it says something. -/
theorem dispatch_adds (server : ServerId) (hw : Orderly w.store) (peer : SocketAddress)
    (packet : Bytes) (now : Instant) :
    ∃ added : List Message,
      (records (dispatch .standard server peer packet now w).2.store).messages =
        (records w.store).messages ++ added ∧
      (dispatch .standard server peer packet now w).2.live.queue = w.live.queue ++ added ∧
      (added ≠ [] → ∃ payload, RequestHeader.decode packet = (.ok ⟨.say⟩, payload)) := by
  rcases dispatch_moves server peer packet now w with hsame | ⟨handler, payload, hheader, hmove⟩
  · rw [hsame]
    refine ⟨[], ?_, ?_, fun hne => absurd rfl hne⟩
    · rw [List.append_nil]
    · rw [List.append_nil]
  · rcases w.touch_eq peer now with ⟨presence, htouch⟩
    rw [htouch] at hmove
    -- Neither list shows the sign of life that came first.
    rcases hmove.adds hw with ⟨added, hmessages, hqueue, hsay⟩
    refine ⟨added, hmessages, hqueue, fun hne => ⟨payload, ?_⟩⟩
    rw [hheader, hsay hne]
    rfl

/-- What a request adds to those who are tracked, and to the users in the store: nobody, or
    its sender. -/
theorem Course.enrolls {calls : List StoreRequest} {reply : Except HandlerError Reply}
    (h : Course server request w handler calls reply w') (hw : Orderly w.store) :
    (w'.live.presence.roster = w.live.presence.roster ∧
        (records w'.store).users = (records w.store).users) ∨
      ∃ (username : Name) (record : UserRecord) (store : σ), handler = .join ∧
        (Payload.decode : Decoder JoinRequest).value request.payload = .ok ⟨username⟩ ∧
        Gateway.insertUser w.store server request.peer.ip username = (.ok record, store) ∧
        w' = World.setPresence { w with store := store }
          (w.live.presence.join record request.peer request.now) := by
  cases h with
  | joined hdecode hstore => exact Or.inr ⟨_, _, _, rfl, hdecode, hstore, rfl⟩
  | joinFailed hdecode hstore => exact Or.inl ⟨rfl, by rw [(insertUser_error hw hstore).2]⟩
  | createFailed hdecode hstore => exact Or.inl ⟨rfl, by rw [(insertChannel_error hw hstore).2]⟩
  | created hdecode hstore => exact Or.inl ⟨rfl, by rw [(insertChannel_ok hw hstore).2.2]⟩
  | sayFailed hdecode howns hfound honline hstore =>
      exact Or.inl ⟨rfl, by rw [(insertMessage_error hw hstore).2]⟩
  | said hdecode howns hfound honline hstore =>
      refine Or.inl ⟨Tracker.roster_markOnline _ _ _, ?_⟩
      rw [(insertMessage_ok hw hstore).2]
  | historyFailed hdecode howns hfound hstore =>
      exact Or.inl ⟨(Tracker.roster_markOnline _ _ _).trans (Tracker.roster_setChannel _ _), rfl⟩
  | opened hdecode howns hfound hstore =>
      exact Or.inl ⟨(Tracker.roster_markOnline _ _ _).trans (Tracker.roster_setChannel _ _), rfl⟩
  | _ => exact Or.inl ⟨rfl, rfl⟩

/-- A channel is opened with all that the store holds of it, and its viewer is
    online. An answer that says success cannot have been a refusal. -/
theorem runOpenChannel_granted {channel : ChannelId} {user : TrackedUser} {packet rest : Bytes}
    (hw : Orderly w.store)
    (hanswer : (Handler.runOpenChannel server request w).1 = .ok (.answer packet))
    (hdecode : (Payload.decode : Decoder OpenRequest).value request.payload = .ok ⟨channel⟩)
    (hfound : w.live.presence.find? request.peer = some user)
    (hsuccess : ResponseHeader.decode packet = (.ok ⟨.openChannel, .success⟩, rest)) :
    packet = responsePacket .openChannel .success
        ((inChannel channel (records w.store).messages).map Message.row) ∧
      (Handler.runOpenChannel server request w).2 = w.setPresence
        ((w.live.presence.setChannel user.id channel).markOnline user.id request.peer
          request.now) := by
  rw [Handler.runOpenChannel, hdecode] at hanswer ⊢
  simp only [hfound] at hanswer ⊢
  rcases howns : w.ownsChannel server channel with fault | _ | _
  · simp [howns, Handled.drop] at hanswer
  · simp [howns, Handled.drop] at hanswer
  · rcases hmessages : Gateway.selectMessages w.store { channel := some channel } with
      fault | messages
    · -- The refusal says that it is one.
      simp only [howns, World.setPresence, hmessages, Handled.answer, Except.ok.injEq,
        Reply.answer.injEq] at hanswer
      rw [← hanswer] at hsuccess
      have hfail : ResponseHeader.decode (refusalPacket (List MessageRow) .openChannel) =
          (.ok ⟨.openChannel, .fail⟩, [0, 0, 0, 0]) := by rfl
      rw [hfail] at hsuccess
      simp at hsuccess
    · simp only [howns, World.setPresence, hmessages, Handled.answer, Except.ok.injEq,
        Reply.answer.injEq] at hanswer ⊢
      rw [← hanswer, selectMessages_ok hw hmessages, admits_channel]
      exact ⟨rfl, trivial⟩

end Moving

end ChatHost
