import ChatHost.Proofs.Link.Settling

/-!
# Routing

Where a packet goes that has come in.

Packets of two kinds go into the inbox, in the order in which they were completed, and leave
it in this order. Answers never get there, so whoever floods an endpoint keeps nobody from
being answered. What does not fit into the inbox is lost, and so is an answer for which
nobody waits.

An endpoint that was closed goes on giving out what is in its inbox, and does nothing else.

## Main definitions

* `Endpoint.admitted`, `Endpoint.taken`: What an event puts into the inbox, and takes out.
* `Endpoint.Routes`: What becomes of a datagram.
* `Endpoint.Shut`, `Endpoint.Refuses`: A closed endpoint, and what it does not do.

## Theorems

* `step_queue`, `run_queue`: Packets leave the inbox in the order in which they came.
* `Numbered.routes`: Where a packet goes.
* `Shut.step`, `Shut.run`: What is closed stays closed.
* `routed_and_resolved`: What an endpoint does with packets and requests.
-/

namespace ChatHost

namespace Endpoint

/-- What an event puts into the inbox: the packet that a datagram completes, if there is
    room for it. -/
def admitted (e : Endpoint) : Event → List Inbound
  | .datagram peer bytes now =>
    match (e.completes peer bytes now).bind (Frame.inbound? peer) with
    | some packet => if e.inbox.length < inboxCapacity then [packet] else []
    | none => []
  | _ => []

/-- What an event takes out of the inbox. -/
def taken (e : Endpoint) : Event → List Inbound
  | .take =>
    match e.take.1 with
    | .packet packet => [packet]
    | .empty | .disconnected => []
  | .takeAll => e.takeAll.1
  | _ => []

/-- What is seen of an endpoint in the course of events. -/
def collect {α : Type} (see : Endpoint → Event → List α) (e : Endpoint) : List Event → List α
  | [] => []
  | first :: rest => see e first ++ (e.step first).2.collect see rest

/-- What becomes of a datagram. -/
structure Routes (e : Endpoint) (peer : SocketAddress) (bytes : Bytes) (now : Instant) :
    Prop where
  malformed : ∀ defect, Frame.decode bytes = .error defect → e.receive peer bytes now = ([], e)
  incomplete : e.completes peer bytes now = none →
    ∃ reassembler, e.receive peer bytes now = ([], { e with reassembler := reassembler })
  /-- A message or a request goes into the inbox, or is lost. -/
  inbound : ∀ frame packet, e.completes peer bytes now = some frame →
    frame.inbound? peer = some packet → e.inboxOpen = true →
      ∃ reassembler, e.receive peer bytes now = ([], { e with
        reassembler := reassembler
        inbox := if e.inbox.length < inboxCapacity then e.inbox ++ [packet] else e.inbox })
  /-- An answer goes to whoever waits for its number, and they wait no longer. -/
  awaited : ∀ frame waiter, e.completes peer bytes now = some frame → frame.kind = .response →
    waiter ∈ e.waiters → waiter.correlation = frame.correlation →
      ∃ reassembler, e.receive peer bytes now = ([⟨waiter.ticket, some frame.payload⟩], { e with
        reassembler := reassembler
        waiters := e.waiters.filter fun other => decide (other.ticket ≠ waiter.ticket) })
  /-- An answer for which nobody waits is lost. -/
  unawaited : ∀ frame, e.completes peer bytes now = some frame → frame.kind = .response →
    (∀ waiter ∈ e.waiters, waiter.correlation ≠ frame.correlation) →
      ∃ reassembler, e.receive peer bytes now = ([], { e with reassembler := reassembler })

/-- Nothing is sent, and nobody waits. -/
structure Refuses (e : Endpoint) : Prop where
  send : ∀ network peer payload, (e.send network peer payload).1 = .error .closed ∧
    (e.send network peer payload).2.1 = []
  request : ∀ network peer payload timeout now,
    e.request network peer payload timeout now = (.error .closed, [], e)
  respond : ∀ network packet payload, packet.wantsAnswer = true →
    e.respond network packet payload = (.error .closed, [])
  waiters : e.waiters = []

section Queueing

variable (e : Endpoint)

-- Whatever a datagram changes, it changes what waits for something.
theorem receive_same (peer : SocketAddress) (bytes : Bytes) (now : Instant) :
    ∃ reassembler waiters inbox, (e.receive peer bytes now).2 =
      { e with reassembler := reassembler, waiters := waiters, inbox := inbox } := by
  rcases e.receive_eq peer bytes now with ⟨reassembler, hreceive⟩
  rw [hreceive]
  rcases e.completes peer bytes now with _ | frame
  · exact ⟨reassembler, _, _, rfl⟩
  · simp only [route]
    split
    · simp only [resolve]
      split <;> exact ⟨reassembler, _, _, rfl⟩
    · simp only [deposit]
      split <;> exact ⟨reassembler, _, _, rfl⟩
    · simp only [deposit]
      split <;> exact ⟨reassembler, _, _, rfl⟩

theorem deposit_open {e : Endpoint} (h : e.inboxOpen = true) (packet : Inbound) :
    e.deposit packet = { e with
      inbox := if e.inbox.length < inboxCapacity then e.inbox ++ [packet] else e.inbox } := by
  by_cases hroom : e.inbox.length < inboxCapacity
  · have hboth : (e.inboxOpen && decide (e.inbox.length < inboxCapacity)) = true := by
      rw [h, decide_eq_true hroom]
      rfl
    rw [deposit, if_pos hboth, if_pos hroom]
  · have hfull : ¬ (e.inboxOpen && decide (e.inbox.length < inboxCapacity)) = true := by
      rw [decide_eq_false hroom, Bool.and_false]
      exact Bool.false_ne_true
    rw [deposit, if_neg hfull, if_neg hroom]

theorem resolve_inbox (correlation : UInt32) (answer : Bytes) :
    (e.resolve correlation answer).2.inbox = e.inbox := by
  rw [resolve]
  split <;> rfl

-- A datagram puts into the inbox what it completes, if there is room.
theorem receive_queue (h : e.inboxOpen = true) (peer : SocketAddress) (bytes : Bytes)
    (now : Instant) :
    (e.receive peer bytes now).2.inbox = e.inbox ++ e.admitted (.datagram peer bytes now) := by
  rw [admitted]
  rcases hframe : e.completes peer bytes now with _ | frame
  · rcases e.receive_incomplete hframe with ⟨_, hreceive⟩
    rw [hreceive]
    exact (List.append_nil _).symm
  · rw [Option.bind_some]
    rcases hpacket : frame.inbound? peer with _ | packet
    · have hkind : frame.kind = .response := by
        by_contra hother
        rcases frame.exists_inbound peer hother with ⟨_, hsome⟩
        rw [hsome] at hpacket
        exact Option.some_ne_none _ hpacket
      rcases e.receive_response hframe hkind with ⟨_, hreceive⟩
      rw [hreceive, resolve_inbox]
      exact (List.append_nil _).symm
    · rcases e.receive_inbound hframe hpacket with ⟨reassembler, hreceive⟩
      have hopen : { e with reassembler := reassembler }.inboxOpen = true := h
      rw [hreceive, deposit_open hopen]
      by_cases hroom : e.inbox.length < inboxCapacity
      · simp only [if_pos hroom]
      · simp only [if_neg hroom, List.append_nil]

-- Whoever takes a packet gets the oldest.
theorem take_queue : e.inbox = e.taken .take ++ e.take.2.inbox := by
  rw [taken, take]
  rcases hinbox : e.inbox with _ | ⟨packet, rest⟩
  · rcases e.closed || !e.inboxOpen with _ | _ <;> exact hinbox.symm
  · rfl

-- Nothing is put into an inbox that is full.
theorem admitted_fits (h : e.inbox.length ≤ inboxCapacity) (event : Event) :
    (e.inbox ++ e.admitted event).length ≤ inboxCapacity := by
  have hnone : (e.inbox ++ []).length ≤ inboxCapacity := by rwa [List.append_nil]
  cases event with
  | datagram peer bytes now =>
      rw [admitted]
      rcases (e.completes peer bytes now).bind (Frame.inbound? peer) with _ | packet
      · exact hnone
      · by_cases hroom : e.inbox.length < inboxCapacity
        · simp only [if_pos hroom]
          rw [List.length_append]
          exact hroom
        · simp only [if_neg hroom]
          exact hnone
  | _ => exact hnone

/-- What an event puts into the inbox comes after what is there, and what it takes out
    comes before what stays. -/
theorem step_queue (h : e.inboxOpen = true) {event : Event} (hevent : event ≠ .dropInbox) :
    e.inbox ++ e.admitted event = e.taken event ++ (e.step event).2.inbox ∧
      (e.step event).2.inboxOpen = true := by
  cases event with
  | datagram peer bytes now =>
      refine ⟨(e.receive_queue h peer bytes now).symm, ?_⟩
      rcases e.receive_same peer bytes now with ⟨_, _, _, hreceive⟩
      rw [step, hreceive]
      exact h
  | request network peer payload timeout now =>
      rw [step, request]
      split
      · exact ⟨List.append_nil _, h⟩
      · rcases e.transmit network peer .request e.nextCorrelation payload with
          ⟨error | ⟨⟩, sent⟩ <;> exact ⟨List.append_nil _, h⟩
  | take =>
      refine ⟨(List.append_nil _).trans e.take_queue, ?_⟩
      rw [step, take]
      split <;> exact h
  | takeAll => exact ⟨rfl, h⟩
  | dropInbox => exact absurd rfl hevent
  | _ => exact ⟨List.append_nil _, h⟩

/-- Packets leave the inbox in the order in which they came, and there are never more in it
    than it holds. -/
theorem run_queue (h : e.inboxOpen = true) (hfits : e.inbox.length ≤ inboxCapacity)
    {events : List Event} (hevents : ∀ event ∈ events, event ≠ .dropInbox) :
    e.inbox ++ e.collect admitted events = e.collect taken events ++ (e.run events).2.inbox ∧
      (e.run events).2.inboxOpen = true ∧ (e.run events).2.inbox.length ≤ inboxCapacity := by
  induction events generalizing e with
  | nil => exact ⟨List.append_nil _, h, hfits⟩
  | cons first rest ih =>
      rcases e.step_queue h (hevents first List.mem_cons_self) with ⟨hqueue, hopen⟩
      have hfits' : (e.step first).2.inbox.length ≤ inboxCapacity := by
        refine Nat.le_trans ?_ (e.admitted_fits hfits first)
        rw [hqueue, List.length_append]
        exact Nat.le_add_left _ _
      rcases ih _ hopen hfits' fun event hevent => hevents event (List.mem_cons_of_mem _ hevent) with
        ⟨hrest, hlater⟩
      refine ⟨?_, hlater⟩
      rw [collect, collect, run_cons, ← List.append_assoc, hqueue, List.append_assoc, hrest,
        List.append_assoc]

end Queueing

/-- Where a packet goes: into the inbox, to whoever waits for it, or nowhere. -/
theorem Numbered.routes {e : Endpoint} (h : e.Numbered) (hids : e.issued < UInt32.size)
    (peer : SocketAddress) (bytes : Bytes) (now : Instant) : e.Routes peer bytes now where
  malformed defect hdefect := by
    rw [receive, hdefect]
    exact ite_self _
  incomplete := e.receive_incomplete
  inbound frame packet hframe hpacket hopen := by
    rcases e.receive_inbound hframe hpacket with ⟨reassembler, hreceive⟩
    have hopen' : { e with reassembler := reassembler }.inboxOpen = true := hopen
    exact ⟨reassembler, by rw [hreceive, deposit_open hopen']⟩
  awaited frame waiter hframe hkind hwaiter hnumber := by
    rcases e.receive_response hframe hkind with ⟨reassembler, hreceive⟩
    exact ⟨reassembler, by rw [hreceive, ← hnumber,
      (h.rearranged reassembler).resolve_waiting hids hwaiter]⟩
  unawaited frame hframe hkind hnobody := by
    rcases e.receive_response hframe hkind with ⟨reassembler, hreceive⟩
    exact ⟨reassembler, by rw [hreceive, resolve_nobody { e with reassembler := reassembler } _ hnobody]⟩

section Closing

variable {e : Endpoint}

/-- A closed endpoint, at which nobody waits. -/
structure Shut (e : Endpoint) : Prop where
  closed : e.closed = true
  waiters : e.waiters = []

theorem Shut.request (h : e.Shut) (network : Network) (peer : SocketAddress) (payload : Bytes)
    (timeout : Nat) (now : Instant) :
    e.request network peer payload timeout now = (.error .closed, [], e) := by
  rw [Endpoint.request, if_pos h.closed]

-- What is closed stays closed.
theorem Shut.step (h : e.Shut) (event : Event) : (e.step event).2.Shut := by
  have hnobody : (e.step event).2.waiters = [] := by
    rcases e.step_newcomer event with hfewer | ⟨network, peer, payload, timeout, now, -, hok, -⟩
    · rw [h.waiters] at hfewer
      exact List.sublist_nil.mp hfewer
    · rw [h.request] at hok
      exact absurd hok (by simp)
  refine ⟨?_, hnobody⟩
  cases event with
  | datagram peer bytes now =>
      rcases e.receive_same peer bytes now with ⟨_, _, _, hreceive⟩
      rw [Endpoint.step, hreceive]
      exact h.closed
  | request network peer payload timeout now =>
      rw [Endpoint.step, h.request]
      exact h.closed
  | close => rfl
  | take =>
      rw [Endpoint.step, Endpoint.take]
      split <;> exact h.closed
  | _ => exact h.closed

theorem Shut.run (h : e.Shut) (events : List Event) : (e.run events).2.Shut := by
  induction events generalizing e with
  | nil => exact h
  | cons first rest ih => exact ih (h.step first)

-- Once an endpoint was closed it is shut.
theorem run_shut {events : List Event} (h : .close ∈ events) : (e.run events).2.Shut := by
  rcases List.append_of_mem h with ⟨before, after, rfl⟩
  rw [run_append, run_cons]
  exact Shut.run ⟨rfl, rfl⟩ after

theorem Shut.refuses (h : e.Shut) : e.Refuses where
  send network peer payload := by
    rw [Endpoint.send, transmit, if_pos h.closed]
    exact ⟨rfl, rfl⟩
  request := h.request
  respond network packet payload hwants := by
    rcases Option.isSome_iff_exists.mp hwants with ⟨correlation, hcorrelation⟩
    rw [Endpoint.respond, hcorrelation]
    simp only [transmit, if_pos h.closed]
  waiters := h.waiters

end Closing

/-- What an endpoint does with packets and requests, after any history of datagrams, packets
    taken, packets and requests sent, and deadlines, closed or not, as long as there are
    numbers left.

    Where a datagram goes is told by `Routes`. While somebody takes packets, what was put into
    the inbox is what was taken out of it, in this order, with what is still there, and there
    are never more than `inboxCapacity`. A request that could be sent is told once how it
    ended: by the first answer with its number after it, by its deadline, or when the endpoint
    was closed, and it waits exactly until then; nobody waits for one that could not be sent,
    and nobody else waits or is told anything. A closed endpoint sends nothing. -/
theorem routed_and_resolved (address : SocketAddress) (events : List Event)
    (hids : ((fresh address).run events).2.issued < UInt32.size) :
    let told := ((fresh address).run events).1
    let e := ((fresh address).run events).2
    (∀ peer bytes now, e.Routes peer bytes now) ∧
    ((∀ event ∈ events, event ≠ .dropInbox) →
      e.inboxOpen = true ∧ e.inbox.length ≤ inboxCapacity ∧
        (fresh address).collect admitted events =
          (fresh address).collect taken events ++ e.inbox) ∧
    (∀ before network peer payload timeout now after,
      events = before ++ .request network peer payload timeout now :: after →
        Requested e told ((fresh address).run before).2 network peer payload timeout now after) ∧
    (∀ ticket, ticket ∈ told.map (·.ticket) ∨ ticket ∈ e.waiters.map (·.ticket) →
      ∃ before network peer payload timeout now after,
        events = before ++ .request network peer payload timeout now :: after ∧
          (((fresh address).run before).2.request network peer payload timeout now).1 =
            .ok ticket) ∧
    (.close ∈ events → e.Refuses) := by
  intro told e
  have hfresh := Numbered.fresh address
  refine ⟨(hfresh.run events).routes hids, fun hevents => ?_, ?_, fun ticket hticket => ?_,
    fun hclose => (run_shut hclose).refuses⟩
  · rcases (fresh address).run_queue rfl (Nat.zero_le _) hevents with ⟨hqueue, hopen, hfits⟩
    exact ⟨hopen, hfits, hqueue⟩
  · rintro before network peer payload timeout now after rfl
    simp only [told, e]
    rw [run_append] at hids ⊢
    exact (hfresh.run before).requested (hfresh.toTidy.ticket_lt before) network peer payload
      timeout now after hids
  · exact (run_asked hfresh.toTidy events hticket).resolve_left List.not_mem_nil

/-- A user of some host. -/
def neighbour (host : UInt8) : SocketAddress := { ip := .v4 ⟨10, 0, 0, host⟩, port := 5000 }

/-- What the endpoint below asks, and how it is answered. -/
def ping : Bytes := [7]

def pong : Bytes := [8]

/-- Two users are asked, and one answers twice. A third asks something under the number of
    the answer. The deadline of the other comes, they are asked again, and the endpoint is
    closed. -/
def crossing : List Event :=
  [.request .routed (neighbour 2) ping 5000 0,
    .request .routed (neighbour 3) ping 5000 10,
    .datagram (neighbour 4) (Frame.whole .request 2 ping).encode 20,
    .datagram (neighbour 3) (Frame.whole .response 2 pong).encode 30,
    .datagram (neighbour 3) (Frame.whole .response 2 ping).encode 40,
    .expire 5000,
    .request .routed (neighbour 2) ping 5000 6000,
    .close]

/-- The first is told nothing at the deadline, the second is told the first answer, and the
    third is told nothing when the endpoint is closed. The packet that asks is in the
    inbox. -/
theorem crossing_settled :
    let e := ((fresh (neighbour 1)).run crossing).2
    let told := ((fresh (neighbour 1)).run crossing).1
    e.issued < UInt32.size ∧ endsOf 0 told = [none] ∧ endsOf 1 told = [some pong] ∧
      endsOf 2 told = [none] ∧ e.inbox = [⟨neighbour 4, some 2, ping⟩] ∧ e.Refuses := by
  intro e told
  have hids : e.issued < UInt32.size := by decide +kernel
  rcases routed_and_resolved (neighbour 1) crossing hids with
    ⟨-, hqueue, hrequests, -, hcloses⟩
  have hfirst := (hrequests [] .routed (neighbour 2) ping 5000 0 (crossing.drop 1) rfl).sent 0
    (by decide +kernel)
  have hsecond := (hrequests (crossing.take 1) .routed (neighbour 3) ping 5000 10
    (crossing.drop 2) rfl).sent 1 (by decide +kernel)
  have hthird := (hrequests (crossing.take 6) .routed (neighbour 2) ping 5000 6000
    (crossing.drop 7) rfl).sent 2 (by decide +kernel)
  have hinbox := (hqueue (by simp [crossing])).2.2
  refine ⟨hids, hfirst.1.trans ?_, hsecond.1.trans ?_, hthird.1.trans ?_, ?_,
    hcloses (by simp [crossing])⟩
  · decide +kernel
  · decide +kernel
  · decide +kernel
  · have hnone : (fresh (neighbour 1)).collect taken crossing = [] := by decide +kernel
    rw [hnone, List.nil_append] at hinbox
    rw [← hinbox]
    decide +kernel

end Endpoint

end ChatHost
