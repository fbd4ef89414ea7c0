import ChatHost.Proofs.Server.Acceptance

/-!
# Failures of the Store

What the caller hears when the store fails.

A handler asks the store for what it needs, one operation after the other, and
gives up at the first that fails. Whether the caller is told depends on the
operation, and on nothing else: a failed look-up of a channel drops the request,
and every other failure refuses it (`Course.failed`). So opening a channel has
two ways to fail that the caller cannot foresee. If its history cannot be read,
the caller is refused; if it cannot be found out whose channel it is, the caller
waits for an answer that does not come (`lookup_failure_unanswered`).

A request that has no answer cannot be refused, so the law is about the others.

## Theorems

* `Course.failed`: What a failure makes of a request.
* `Stage.failure_answered`: What the caller hears of it.
* `lookup_failure_unanswered`: A failure that the caller does not hear of.
-/

namespace ChatHost

section Failing

variable {σ : Type} [Gateway σ]

-- A look-up that fails does not tell whose channel it is.
theorem World.ownsChannel_error {w : World σ} {server : ServerId} {channel : ChannelId}
    {fault : Fault} (h : ((Handler.lookup server channel).run w.store).1 = .error fault) :
    w.ownsChannel server channel = .error fault := by
  rw [Handler.lookup, StoreRequest.run] at h
  rw [ownsChannel]
  rcases hfound : Gateway.selectChannels w.store { id := some channel, server := some server } with
    fault' | found
  · simpa [hfound, Except.map] using h
  · simp [hfound, Except.map] at h

/-- What a failure makes of a request: one that cannot look up its channel is
    dropped, and every other is refused if it can be. -/
theorem Course.failed {server : ServerId} {request : Request} {w w' : World σ}
    {handler : Handler} {calls : List StoreRequest} {reply : Except HandlerError Reply}
    (h : Course server request w handler calls reply w') {call : StoreRequest}
    (hcall : call ∈ calls) {fault : Fault} (hfault : (call.run w.store).1 = .error fault)
    {refusal : Bytes} (hrefusal : handler.refusal? = some refusal) :
    reply = if call.isLookup then .error (.storeFailure fault) else .ok (.answer refusal) := by
  -- A look-up that has told something has not failed.
  have hworked : ∀ {channel : ChannelId} {owns : Bool}, call = Handler.lookup server channel →
      w.ownsChannel server channel ≠ .ok owns := by
    rintro channel owns rfl
    rw [World.ownsChannel_error hfault]
    simp
  cases h with
  | dropped => exact absurd hcall List.not_mem_nil
  | refused hhandler hrefusal' => exact absurd hcall List.not_mem_nil
  | joinFailed hdecode hstore =>
      rw [List.mem_singleton.mp hcall, ← Option.some.inj hrefusal]
      rfl
  | joined hdecode hstore =>
      rw [List.mem_singleton.mp hcall, StoreRequest.run, hstore] at hfault
      simp [answered, Except.map] at hfault
  | listFailed hhandler hstore =>
      rw [List.mem_singleton.mp hcall]
      rcases hhandler with rfl | rfl <;> rw [← Option.some.inj hrefusal] <;> rfl
  | listed hhandler hstore =>
      rw [List.mem_singleton.mp hcall, StoreRequest.run, hstore] at hfault
      simp [Except.map] at hfault
  | lookupFailed hnamed howns =>
      obtain rfl := List.mem_singleton.mp hcall
      rw [World.ownsChannel_error hfault] at howns
      rw [Except.error.inj howns]
      rfl
  | foreign hnamed howns => exact absurd howns (hworked (List.mem_singleton.mp hcall))
  | openerUnknown hdecode howns hfound =>
      exact absurd howns (hworked (List.mem_singleton.mp hcall))
  | historyFailed hdecode howns hfound hstore =>
      rcases List.mem_pair.mp hcall with hcall | rfl
      · exact absurd howns (hworked hcall)
      · rw [← Option.some.inj hrefusal]
        rfl
  | opened hdecode howns hfound hstore =>
      rcases List.mem_pair.mp hcall with hcall | rfl
      · exact absurd howns (hworked hcall)
      · rw [StoreRequest.run, hstore] at hfault
        simp [Except.map] at hfault
  | sayFailed hdecode howns hfound honline hstore => simp [Handler.refusal?] at hrefusal
  | said hdecode howns hfound honline hstore => simp [Handler.refusal?] at hrefusal
  | rightsFailed hstore =>
      rw [List.mem_singleton.mp hcall, ← Option.some.inj hrefusal]
      rfl
  | callerUnknown hstore =>
      rw [List.mem_singleton.mp hcall, StoreRequest.run, hstore] at hfault
      simp [Except.map] at hfault
  | rightsTold hstore =>
      rw [List.mem_singleton.mp hcall, StoreRequest.run, hstore] at hfault
      simp [Except.map] at hfault
  | createFailed hdecode hstore =>
      rw [List.mem_singleton.mp hcall, ← Option.some.inj hrefusal]
      rfl
  | created hdecode hstore =>
      rw [List.mem_singleton.mp hcall, StoreRequest.run, hstore] at hfault
      simp [answered, Except.map] at hfault

/-- What the caller hears of a failure: a refusal, with the zero of the payload that
    was asked for, unless it was the channel that could not be looked up. -/
theorem Stage.failure_answered (s : Stage σ) (hs : s.handlers = .standard) {packet : Inbound}
    (hwants : packet.wantsAnswer = true) {handler : Handler} {body : Bytes}
    (hheader : RequestHeader.decode packet.payload = (.ok ⟨handler.kind⟩, body))
    {refusal : Bytes} (hrefusal : handler.refusal? = some refusal) {call : StoreRequest}
    (hcall : call ∈ handler.calls s.server { peer := packet.peer, payload := body, now := s.clock }
      (s.world.touch packet.peer s.clock))
    {fault : Fault} (hfault : (call.run s.world.store).1 = .error fault) :
    (s.receive packet).1 =
        (if call.isLookup then [] else [.answered packet.peer refusal]) ∧
      ResponseHeader.decode refusal = (.ok ⟨handler.kind, .fail⟩, handler.zeroPayload) := by
  refine ⟨?_, Handler.refusal_header hrefusal⟩
  let request : Request := { peer := packet.peer, payload := body, now := s.clock }
  let w := s.world.touch packet.peer s.clock
  have hfault' : (call.run w.store).1 = .error fault := by rwa [World.touch_store]
  have hreply := (handler.run_course s.server request w).failed hcall hfault' hrefusal
  rw [receive, hs, dispatch_handled s.server packet.peer hheader s.clock s.world]
  simp only [request, w] at hreply
  simp only [hreply]
  by_cases hlookup : call.isLookup = true
  · rw [if_pos hlookup, if_pos hlookup]
    rfl
  · rw [if_neg hlookup, if_neg hlookup]
    simp only [Dispatched.answer?, hwants, if_pos]

end Failing

/-- A server whose channel a client has opened, and whose store now fails at some
    operations. -/
def failing (broken : List StoreMethod) : Stage (Breakable Backing) :=
  { server := 7001
    staleAfter := 30000
    world := ((Service.blank 7001).run (Service.opening ++ [.outage broken])).world }

/-- The client opens the channel again, and waits for an answer. -/
def openingAgain : Inbound :=
  { peer := Service.alice
    correlation := some 1
    payload := requestPacket .openChannel (⟨1⟩ : OpenRequest) }

/-- The same as a handler gets it. -/
def openedAgain : Request := { peer := Service.alice, payload := [1, 0, 0, 0], now := 0 }

theorem history_failure_refused :
    openingAgain.wantsAnswer = true ∧
      ((failing [.selectMessages]).receive openingAgain).1 =
        [.answered Service.alice (refusalPacket (List MessageRow) .openChannel)] := by
  have hheader : RequestHeader.decode openingAgain.payload =
    (.ok ⟨Handler.openChannel.kind⟩, openedAgain.payload) := rfl
  have hcall : StoreRequest.selectMessages { channel := some 1 } ∈
      Handler.openChannel.calls 7001 openedAgain
        ((failing [.selectMessages]).world.touch Service.alice 0) :=
    List.mem_cons_of_mem _ List.mem_cons_self
  exact ⟨rfl, ((failing [.selectMessages]).failure_answered rfl rfl hheader rfl hcall rfl).1⟩

/-- The client is known, it waits for an answer, and what it asks is answered at
    other times. Now its channel cannot be looked up, and nothing goes back. -/
theorem lookup_failure_unanswered :
    openingAgain.wantsAnswer = true ∧
      RequestHeader.decode openingAgain.payload =
        (.ok ⟨Handler.openChannel.kind⟩, openedAgain.payload) ∧
      ((failing [.selectChannels]).world.live.presence.find? Service.alice).isSome = true ∧
      Handler.openChannel.calls 7001 openedAgain
        ((failing [.selectChannels]).world.touch Service.alice 0) = [Handler.lookup 7001 1] ∧
      (∃ fault, ((Handler.lookup 7001 1).run (failing [.selectChannels]).world.store).1 =
        .error fault) ∧
      ((failing [.selectChannels]).receive openingAgain).1 = [] :=
  ⟨rfl, rfl, rfl, rfl, ⟨_, rfl⟩, rfl⟩

end ChatHost
