import ChatHost.Proofs.Broadcast.Carriage
import ChatHost.Proofs.Link.Arrival
import ChatHost.Proofs.Server.Upkeep

/-!
# Replies

What a running server sends back for a request.

A request that comes in waits in the inbox until all that came before it has been taken in,
and it is answered when it is taken in itself. Anything may happen in between but a stop:
whoever is tracked stays tracked, channels stay where they are, and the socket stays open
(`Venue.Upheld`). So the answer depends on nothing but the store as it is then, and it is
sent unless the network refuses it or it is too large (`Venue.Upheld.history_sent`).

There are two bounds. The history of a channel grows with every message in it, but packets
do not grow with it, so a member may find a channel that cannot be opened. And the inbox
holds only so many packets, so a request that finds it full is lost
(`history_unanswered`). Within these bounds the history reaches the member
(`history_reaches_member`).

## Main definitions

* `replies`: The datagrams of an answer.
* `Frame.inbound`: The packet that an unsplit frame is.

## Theorems

* `Endpoint.Ready.receive_frame`: A packet that comes in waits, if there is room.
* `Venue.Upheld.step_arrives`, `Venue.step_takes`: The inbox of a server.
* `Venue.Upheld.take_sends`: What is sent when a packet is taken in.
* `Venue.Upheld.history_sent`: What is sent for a request for a channel.
* `history_reaches_member`: The history of a channel reaches the member who asks for it.
* `history_unanswered`: Unless it is too long, or nobody can take the request in.
-/

namespace ChatHost

open LawfulGateway

/-- The datagrams of an answer, as far as the network takes them. One that is too large has
    none. -/
def replies (network : Network) (source target : SocketAddress) (correlation : UInt32)
    (answer : Bytes) : List Datagram :=
  match Frame.split .response correlation answer with
  | .error _ => []
  | .ok frames => (network.sendAll source target frames).2

/-- The packet that an unsplit frame is, if it is no answer. -/
def Frame.inbound (peer : SocketAddress) (frame : Frame) : Inbound :=
  ⟨peer, if frame.kind = .request then some frame.correlation else none, frame.payload⟩

namespace Endpoint

variable {e : Endpoint} {address : SocketAddress}

-- A datagram with a frame that is not split completes that frame.
theorem completes_unsplit (hopened : e.closed = false) {datagram : Bytes} {frame : Frame}
    (hframe : Frame.decode datagram = .ok frame) (hunsplit : frame.isFragment = false)
    (peer : SocketAddress) (now : Instant) : e.completes peer datagram now = some frame := by
  simp only [completes, hopened, hframe, Reassembler.accept, hunsplit]
  rfl

/-- A packet goes to the end of the inbox, or is lost if the inbox is full. -/
theorem Ready.receive_frame (h : e.Ready address) {datagram : Bytes} {frame : Frame}
    (hframe : Frame.decode datagram = .ok frame) (hunsplit : frame.isFragment = false)
    (hkind : frame.kind ≠ .response) (peer : SocketAddress) (now : Instant) :
    (e.receive peer datagram now).2.inbox =
      if e.inbox.length < inboxCapacity then e.inbox ++ [frame.inbound peer] else e.inbox := by
  rcases e.receive_eq peer datagram now with ⟨reassembler, hreceive⟩
  rw [hreceive, completes_unsplit h.opened hframe hunsplit]
  have hdeposit : ∀ packet,
      (deposit { e with reassembler := reassembler } packet).inbox =
        if e.inbox.length < inboxCapacity then e.inbox ++ [packet] else e.inbox := by
    intro packet
    by_cases hroom : e.inbox.length < inboxCapacity
    · simp only [deposit, h.taking, hroom, decide_true, Bool.and_self, if_true]
    · simp only [deposit, h.taking, hroom, decide_false, Bool.and_false, if_false,
        Bool.false_eq_true]
  rcases hframekind : frame.kind with _ | _ | _
  · simp only [route, hframekind, Frame.inbound]
    exact hdeposit _
  · simp only [route, hframekind, Frame.inbound]
    exact hdeposit _
  · exact absurd hframekind hkind

-- Nothing is sent for a packet that wants no answer.
theorem Ready.respond (h : e.Ready address) (network : Network) (packet : Inbound)
    (answer : Bytes) :
    (e.respond network packet answer).2 =
      packet.correlation.elim [] (replies network address packet.peer · answer) := by
  rcases packet with ⟨peer, _ | correlation, payload⟩
  · rfl
  · simp only [Endpoint.respond, transmit, h.opened, h.address, replies, Option.elim_some]
    split
    · next hclosed => exact absurd hclosed Bool.false_ne_true
    · rcases Frame.split .response correlation answer with error | frames <;> rfl

end Endpoint

-- What is sent when a packet is taken in is the answer, if there is one.
theorem Turn.handleNext_sent {σ : Type} [Gateway σ] {turn : Turn (Breakable σ)}
    {address : SocketAddress} (hready : turn.session.endpoint.Ready address) {packet : Inbound}
    {rest : List Inbound} (hinbox : turn.session.endpoint.inbox = packet :: rest) :
    turn.handleNext.sent = turn.sent ++
      (dispatch .standard turn.server packet.peer packet.payload turn.now turn.world).1.answer?.elim
        [] fun answer =>
          packet.correlation.elim [] (replies turn.network address packet.peer · answer) := by
  rw [handleNext_cons hinbox]
  rcases hdispatch : dispatch .standard turn.server packet.peer packet.payload turn.now turn.world
    with ⟨outcome, world⟩
  simp only [handle, withEndpoint, hdispatch, List.append_nil]
  rcases outcome.answer? with _ | answer
  · exact (List.append_nil _).symm
  · have hready' : Endpoint.Ready { turn.session.endpoint with inbox := rest } address :=
      ⟨hready.address, hready.opened, hready.taking⟩
    exact congrArg (turn.sent ++ ·) (hready'.respond turn.network packet answer)

/-- A user who asks for a channel of the server is answered with its history. -/
theorem dispatch_opened {σ : Type} [Gateway σ] [LawfulGateway σ] {server : ServerId}
    {peer : SocketAddress} {packet body : Bytes} {now : Instant} {w : World σ}
    {channel : ChannelId} {user : TrackedUser} {channels : List Channel}
    {messages : List Message}
    (hheader : RequestHeader.decode packet = (.ok ⟨.openChannel⟩, body))
    (hbody : (Payload.decode : Decoder OpenRequest).value body = .ok ⟨channel⟩)
    (hknown : w.live.presence.find? peer = some user) (horderly : Orderly w.store)
    (hhosts : Hosts w.store server channel)
    (hfound : Gateway.selectChannels w.store { id := some channel, server := some server } =
      .ok channels)
    (hmessages : Gateway.selectMessages w.store { channel := some channel } = .ok messages) :
    (dispatch .standard server peer packet now w).1.answer? =
      some (responsePacket .openChannel .success (messages.map Message.row)) := by
  have howns : w.ownsChannel server channel = .ok true := by
    rcases hhosts with ⟨c, hc, hid, hserver⟩
    have hmem : c ∈ channels := by
      rw [selectChannels_ok horderly hfound]
      refine List.mem_filter.mpr ⟨hc, ?_⟩
      simp only [ChannelFilter.admits, agrees, hid, hserver, decide_true, Bool.and_true]
    have hsome : (!channels.isEmpty) = true := by
      rw [Bool.not_eq_true', List.isEmpty_eq_false_iff]
      exact List.ne_nil_of_mem hmem
    rw [World.ownsChannel, hfound, Except.map, hsome]
  rw [dispatch_opening hheader hbody hknown howns now, hmessages]
  rfl

namespace Venue

variable {σ : Type} [Gateway σ] [LawfulGateway σ] {server : ServerId} {settings : ServerSettings}

omit [LawfulGateway σ] in
/-- What is taken in is the packet that has waited longest. -/
theorem step_takes (v : Venue σ) (network : Network) (now : Instant) :
    (v.step ⟨network, now, .happening .packet⟩).2.inbox = v.inbox.tail := by
  rcases hsession : v.hosted.session with _ | session
  · simp only [step, Hosted.handleNext, inbox, Hosted.act_stopped _ _ _ hsession, hsession,
      List.tail_nil]
  · have htake := Turn.session_handleNext (v.hosted.turn network v.store now session)
    simp only [step, Hosted.handleNext, inbox, Hosted.act_running _ _ _ hsession, htake, hsession]
    exact session.endpoint.take_inbox

omit [LawfulGateway σ] in
-- Nothing comes of taking a packet where none waits.
theorem take_nothing {v : Venue σ} (hinbox : v.inbox = []) (network : Network) (now : Instant) :
    (v.step ⟨network, now, .happening .packet⟩).1 = .sent [] := by
  rcases hsession : v.hosted.session with _ | session
  · simp only [step, Hosted.handleNext, Hosted.act_stopped _ _ _ hsession]
  · simp only [inbox, hsession] at hinbox
    have hempty : (v.hosted.turn network v.store now session).session.endpoint.inbox = [] := hinbox
    have hnothing := Turn.handleNext_nil hempty
    simp only [step, Hosted.handleNext, Hosted.act_running _ _ _ hsession, hnothing]
    rfl

namespace Upheld

variable {v : Venue σ}

/-- A packet that comes in at a running server waits, if there is room for it, and changes
    nothing else. -/
theorem step_arrives (h : Upheld server settings v) (hrunning : v.hosted.isRunning = true)
    {datagram : Bytes} {frame : Frame} (hframe : Frame.decode datagram = .ok frame)
    (hunsplit : frame.isFragment = false) (hkind : frame.kind ≠ .response) (network : Network)
    (now : Instant) (peer : SocketAddress) :
    let after := (v.step ⟨network, now, .happening (.datagram peer datagram)⟩).2
    after.store = v.store ∧ after.hosted.live = v.hosted.live ∧
      after.inbox = if v.inbox.length < Endpoint.inboxCapacity then
        v.inbox ++ [frame.inbound peer] else v.inbox := by
  rcases Option.isSome_iff_exists.mp hrunning with ⟨session, hsession⟩
  have hreceive := (h.ready session hsession).receive_frame hframe hunsplit hkind peer now
  simp only [Venue.step, Hosted.arrive, Hosted.act_running _ _ _ hsession]
  refine ⟨rfl, rfl, ?_⟩
  rw [inbox, inbox, hsession]
  exact hreceive

/-- What is sent when a packet is taken in: the answer, if there is one and it is wanted. -/
theorem take_sends (h : Upheld server settings v) {packet : Inbound}
    (hwaits : v.inbox[0]? = some packet) (network : Network) (now : Instant) :
    (v.step ⟨network, now, .happening .packet⟩).1 = .sent
      ((dispatch .standard server packet.peer packet.payload now
          ⟨v.store, v.hosted.live⟩).1.answer?.elim [] fun answer =>
        packet.correlation.elim [] (replies network { ip := settings.bindHost, port := server }
          packet.peer · answer)) := by
  rcases hsession : v.hosted.session with _ | session
  · simp [inbox, hsession] at hwaits
  · simp only [inbox, hsession] at hwaits
    rcases hinbox : session.endpoint.inbox with _ | ⟨first, rest⟩
    · simp [hinbox] at hwaits
    · rw [hinbox] at hwaits
      obtain rfl : first = packet := Option.some.inj hwaits
      have hready : (v.hosted.turn network v.store now session).session.endpoint.Ready
          { ip := settings.bindHost, port := server } := h.ready session hsession
      have hsent := Turn.handleNext_sent hready hinbox
      simp only [Venue.step, Hosted.handleNext, Hosted.act_running _ _ _ hsession, hsent]
      rw [Hosted.turn, h.kept.id]
      rfl

/-- What is sent for a request for a channel, once it is taken in: its history. The request
    has come in from the address of somebody who was tracked then, and there was room for it;
    after that, as many packets have been taken in as were waiting. -/
theorem history_sent (h : Upheld server settings v) (hrunning : v.hosted.isRunning = true)
    {datagram : Bytes} {frame : Frame} (hframe : Frame.decode datagram = .ok frame)
    (hkind : frame.kind = .request) (hunsplit : frame.isFragment = false) {body : Bytes}
    (hheader : RequestHeader.decode frame.payload = (.ok ⟨.openChannel⟩, body))
    {channel : ChannelId}
    (hbody : (Payload.decode : Decoder OpenRequest).value body = .ok ⟨channel⟩)
    {peer : SocketAddress} {user : TrackedUser}
    (hknown : v.hosted.live.presence.find? peer = some user)
    (hhosts : Hosts v.store server channel)
    (hroom : v.inbox.length < Endpoint.inboxCapacity) (network : Network) (now : Instant)
    {meanwhile : List Occasion} (hstop : ∀ occasion ∈ meanwhile, occasion.affair ≠ .stop)
    (hturn : meanwhile.countP Occasion.takes = v.inbox.length) {reached : Venue σ}
    (hreached : v.run (⟨network, now, .happening (.datagram peer datagram)⟩ :: meanwhile) =
      reached) {channels : List Channel} {messages : List Message}
    (hfound : Gateway.selectChannels reached.store
      { id := some channel, server := some server } = .ok channels)
    (hmessages : Gateway.selectMessages reached.store { channel := some channel } =
      .ok messages) (network' : Network) (now' : Instant) :
    (reached.step ⟨network', now', .happening .packet⟩).1 = .sent
      (replies network' { ip := settings.bindHost, port := server } peer frame.correlation
        (responsePacket .openChannel .success (messages.map Message.row))) := by
  have hpacket : frame.inbound peer = ⟨peer, some frame.correlation, frame.payload⟩ := by
    rw [Frame.inbound, if_pos hkind]
  have hkind' : frame.kind ≠ .response := by
    rw [hkind]
    decide
  let arrival : Occasion := ⟨network, now, .happening (.datagram peer datagram)⟩
  rcases h.step_arrives hrunning hframe hunsplit hkind' network now peer with
    ⟨-, -, hinbox⟩
  rw [if_pos hroom, hpacket] at hinbox
  -- The request is the last to wait, and the first once the others have been taken in.
  have harrived : arrival.affair ≠ .stop := by simp [arrival]
  have hplace : (v.step arrival).2.inbox[0 + meanwhile.countP Occasion.takes]? =
      some ⟨peer, some frame.correlation, frame.payload⟩ := by
    rw [hturn, Nat.zero_add, hinbox, List.getElem?_append_right (Nat.le_refl _), Nat.sub_self]
    rfl
  have hafter := h.step_lasts hrunning harrived
  have hwaits := (h.step arrival).run_waits hafter.running hstop hplace
  rw [run_cons] at hreached
  rw [hreached] at hwaits
  -- Whoever was tracked is tracked, and the channel is where it was.
  have hstop' : ∀ occasion ∈ arrival :: meanwhile, occasion.affair ≠ .stop := fun occasion hmem =>
    (List.mem_cons.mp hmem).elim (fun heq => heq ▸ harrived) (hstop occasion)
  have hlasts := h.run_lasts hrunning hstop'
  have hupheld := h.run (arrival :: meanwhile)
  rw [run_cons, hreached] at hlasts hupheld
  have hpresence := (h.sound 0).world.presence
  have hpresence' := (hupheld.sound 0).world.presence
  rcases hpresence.find?_of_subset hpresence' hlasts.roster hknown with ⟨user', hknown'⟩
  rw [hupheld.take_sends hwaits network' now', dispatch_opened (w := ⟨reached.store,
    reached.hosted.live⟩) hheader hbody hknown' hupheld.kept.orderly (hlasts.hosts channel hhosts)
    hfound hmessages]
  rfl

/-- Many packets of one kind, each of which finds room, wait one behind the other. -/
theorem run_arrives (h : Upheld server settings v) (hrunning : v.hosted.isRunning = true)
    {datagram : Bytes} {frame : Frame} (hframe : Frame.decode datagram = .ok frame)
    (hunsplit : frame.isFragment = false) (hkind : frame.kind ≠ .response) (network : Network)
    (now : Instant) (peer : SocketAddress) {count : Nat}
    (hroom : v.inbox.length + count ≤ Endpoint.inboxCapacity) :
    let after := v.run (List.replicate count
      ⟨network, now, .happening (.datagram peer datagram)⟩)
    after.store = v.store ∧ after.hosted.live = v.hosted.live ∧
      after.inbox = v.inbox ++ List.replicate count (frame.inbound peer) := by
  induction count generalizing v with
  | zero => exact ⟨rfl, rfl, (List.append_nil _).symm⟩
  | succ count ih =>
      let arrival : Occasion := ⟨network, now, .happening (.datagram peer datagram)⟩
      rcases h.step_arrives hrunning hframe hunsplit hkind network now peer with
        ⟨hstore, hlive, hinbox⟩
      rw [if_pos (by omega)] at hinbox
      have harrival : arrival.affair ≠ .stop := by simp [arrival]
      have hrunning' := (h.step_lasts hrunning harrival).running
      have hroom' : (v.step arrival).2.inbox.length + count ≤ Endpoint.inboxCapacity := by
        rw [hinbox, List.length_append, List.length_singleton]
        omega
      rcases ih (h.step arrival) hrunning' hroom' with ⟨hstore', hlive', hinbox'⟩
      refine ⟨hstore'.trans hstore, hlive'.trans hlive, ?_⟩
      rw [List.replicate_succ, run_cons, hinbox', hinbox, List.append_assoc, List.singleton_append,
        List.replicate_succ]

/-- Nobody is told anything by packets that want no answer, however many are taken in. -/
theorem take_all_silent (h : Upheld server settings v)
    (hunasked : ∀ packet ∈ v.inbox, packet.correlation = none) (network : Network)
    (now : Instant) (count : Nat) :
    ∀ notice ∈ v.notices (List.replicate count ⟨network, now, .happening .packet⟩),
      notice = .sent [] := by
  induction count generalizing v with
  | zero => exact fun _ hnotice => absurd hnotice List.not_mem_nil
  | succ count ih =>
      have hfirst : (v.step ⟨network, now, .happening .packet⟩).1 = .sent [] := by
        rcases hinbox : v.inbox with _ | ⟨packet, rest⟩
        · exact take_nothing hinbox network now
        · have hwaits : v.inbox[0]? = some packet := by rw [hinbox]; rfl
          have hnone := hunasked packet (hinbox ▸ List.mem_cons_self)
          rw [h.take_sends hwaits, hnone]
          rcases (dispatch .standard server packet.peer packet.payload now
            ⟨v.store, v.hosted.live⟩).1.answer? with _ | answer <;> rfl
      have hrest := ih (h.step ⟨network, now, .happening .packet⟩) (fun packet hpacket =>
        hunasked packet (List.mem_of_mem_tail (v.step_takes network now ▸ hpacket)))
      rw [List.replicate_succ, notices]
      exact List.forall_mem_cons.mpr ⟨hfirst, hrest⟩

end Upheld

end Venue

/-- The history of a channel reaches the member who asks for it, as long as a packet can
    hold it. Whatever has come to pass at a server that runs, a request for one of its
    channels that comes in from the address of a user whom it knows, while there is room in
    the inbox, has its turn after the packets that wait then, whatever else happens
    meanwhile, if only the server is not stopped. It is answered with frames that go to
    that address under the number of the request. They are read from their datagrams, and
    put together they are an answer that grants the request, with everything that the store
    has of the channel. The network is to take datagrams as large as frames are, and the
    store to answer. -/
theorem history_reaches_member {σ : Type} [Gateway σ] [LawfulGateway σ] {store : Breakable σ}
    (horderly : Orderly store) (hapart : Apart store) {server : ServerId}
    {settings : ServerSettings} {past : List Occasion} {v : Venue σ}
    (hv : (Venue.fresh store server settings).run past = v) (hrunning : v.hosted.isRunning = true)
    {datagram : Bytes} {frame : Frame} (hframe : Frame.decode datagram = .ok frame)
    (hkind : frame.kind = .request) (hunsplit : frame.isFragment = false) {body : Bytes}
    (hheader : RequestHeader.decode frame.payload = (.ok ⟨.openChannel⟩, body))
    {channel : ChannelId}
    (hbody : (Payload.decode : Decoder OpenRequest).value body = .ok ⟨channel⟩)
    {peer : SocketAddress} {user : TrackedUser}
    (hknown : v.hosted.live.presence.find? peer = some user)
    (hhosts : Hosts v.store server channel)
    (hroom : v.inbox.length < Endpoint.inboxCapacity) (arrival : Network) (arrived : Instant)
    {meanwhile : List Occasion} (hstop : ∀ occasion ∈ meanwhile, occasion.affair ≠ .stop)
    (hturn : meanwhile.countP Occasion.takes = v.inbox.length) {reached : Venue σ}
    (hreached :
      v.run (⟨arrival, arrived, .happening (.datagram peer datagram)⟩ :: meanwhile) = reached)
    {network : Network}
    (hnetwork : ∀ d : Datagram, d.bytes.length ≤ Frame.headerSize + Frame.maxPayload →
      network.refusal d = none)
    {channels : List Channel} {messages : List Message}
    (hfound : Gateway.selectChannels reached.store
      { id := some channel, server := some server } = .ok channels)
    (hmessages : Gateway.selectMessages reached.store { channel := some channel } =
      .ok messages)
    (hlength : (responsePacket .openChannel .success (messages.map Message.row)).length ≤
      Frame.maxPacket) (now : Instant) :
    ∃ frames : List Frame,
      (reached.step ⟨network, now, .happening .packet⟩).1 = .sent (frames.map fun f =>
        ⟨{ ip := settings.bindHost, port := server }, peer, f.encode⟩) ∧
      (∀ f ∈ frames, f.kind = .response ∧ f.correlation = frame.correlation ∧
        Frame.decode f.encode = .ok f) ∧
      Frame.Restores { ip := settings.bindHost, port := server } frames
        (.whole .response frame.correlation
          (responsePacket .openChannel .success (messages.map Message.row))) ∧
      decodeResponse (List MessageRow)
          (responsePacket .openChannel .success (messages.map Message.row)) =
        .ok (⟨.openChannel, .success⟩, Contents.untilNul (messages.map Message.row)) := by
  have hupheld : Venue.Upheld server settings v :=
    hv ▸ (Venue.Upheld.fresh horderly hapart server settings).run past
  have hsent := hupheld.history_sent hrunning hframe hkind hunsplit hheader hbody hknown hhosts
    hroom arrival arrived hstop hturn hreached hfound hmessages network now
  rcases (Frame.carried_iff .response frame.correlation _).mpr hlength with ⟨frames, hframes⟩
  have hreplies : replies network { ip := settings.bindHost, port := server } peer
      frame.correlation (responsePacket .openChannel .success (messages.map Message.row)) =
        frames.map fun f => ⟨{ ip := settings.bindHost, port := server }, peer, f.encode⟩ := by
    simp only [replies, hframes]
    rw [Network.sendAll_ok fun f hf => hnetwork _ (Frame.length_encode_le hframes hf)]
  rw [hreplies] at hsent
  refine ⟨frames, hsent, fun f hf => ?_, Frame.restores_of_split hframes _, ?_⟩
  · rcases Frame.isPiece_of_split hframes hf with ⟨hresponse, hcorrelation, -⟩
    exact ⟨hresponse, hcorrelation, Frame.decode_of_split hframes hf⟩
  · exact Legible.decodeResponse_eq (fits_of_length_le hlength) .openChannel .success

/-- A request for the first channel. -/
def openingRequest : Frame :=
  Frame.whole .request 2 (requestPacket .openChannel (⟨1⟩ : OpenRequest))

/-- A packet that wants no answer. -/
def nudge : Frame := Frame.whole .message 1 (requestPacket .serverInfo ())

/-- It comes in at some instant. -/
def nudged (now : Instant) : Occasion :=
  .routed now (.happening (.datagram Service.bob nudge.encode))

theorem openingRequest_frame : Frame.decode openingRequest.encode = .ok openingRequest :=
  Frame.decode_encode (by decide)

theorem hall_apart : Apart hall :=
  Service.apart_run (s := Service.blank 7001) List.Pairwise.nil
    (Service.blank_started 7001).orderly Service.opening

/-- A client has said something, and asks for the channel behind a packet of somebody else.
    When the server has come to that, they get what they have said. -/
theorem history_reaches_alice :
    ∃ frames : List Frame,
      ((((Venue.fresh hall 7001 parlour.settings).run
          (Venue.evening.take 5 ++ [nudged 1])).run
        [.routed 2 (.happening (.datagram Service.alice openingRequest.encode)),
         .routed 2 (.happening .packet), .routed 25 (.happening .quiet)]).step
        (.routed 25 (.happening .packet))).1 =
          .sent (frames.map fun f => ⟨parlour.address, Service.alice, f.encode⟩) ∧
      Frame.Restores parlour.address frames (.whole .response 2
        (responsePacket .openChannel .success
          [MessageRow.mk 1 1 ⟨"alice", by decide⟩ "good night"])) := by
  let v := (Venue.fresh hall 7001 parlour.settings).run (Venue.evening.take 5 ++ [nudged 1])
  let meanwhile : List Occasion :=
    [.routed 2 (.happening .packet), .routed 25 (.happening .quiet)]
  let reached := v.run
    (.routed 2 (.happening (.datagram Service.alice openingRequest.encode)) :: meanwhile)
  have hnetwork : ∀ d : Datagram, d.bytes.length ≤ Frame.headerSize + Frame.maxPayload →
      Network.routed.refusal d = none :=
    fun d hd => if_neg (Nat.not_lt.mpr (Nat.le_trans hd (by decide)))
  have hheader : RequestHeader.decode openingRequest.payload =
      (.ok ⟨.openChannel⟩, leBytes 4 1) := rfl
  have hbody : (Payload.decode : Decoder OpenRequest).value (leBytes 4 1) = .ok ⟨1⟩ := rfl
  have hrunning : v.hosted.isRunning = true := by decide +kernel
  have hknown : (v.hosted.live.presence.find? Service.alice).isSome = true := by decide +kernel
  rcases Option.isSome_iff_exists.mp hknown with ⟨user, huser⟩
  have hhosts : Hosts v.store 7001 1 :=
    ⟨⟨1, ⟨"hall", by decide⟩, 7001⟩, by decide +kernel, rfl, rfl⟩
  have hroom : v.inbox.length < Endpoint.inboxCapacity := by decide +kernel
  have hstop : ∀ occasion ∈ meanwhile, occasion.affair ≠ .stop := by
    intro occasion hoccasion
    rcases List.mem_pair.mp hoccasion with rfl | rfl <;> simp [Occasion.routed]
  have hturn : meanwhile.countP Occasion.takes = v.inbox.length := by decide +kernel
  have hfound : Gateway.selectChannels reached.store { id := some 1, server := some 7001 } =
      .ok [⟨1, ⟨"hall", by decide⟩, 7001⟩] := by decide +kernel
  have hmessages : Gateway.selectMessages reached.store { channel := some 1 } =
      .ok [⟨1, 1, 1, ⟨"alice", by decide⟩, "good night"⟩] := by decide +kernel
  rcases history_reaches_member hall_orderly hall_apart rfl hrunning openingRequest_frame rfl rfl
    hheader hbody huser hhosts hroom .routed 2 hstop hturn rfl hnetwork hfound hmessages
    (by decide +kernel) 25 with ⟨frames, hsent, -, hrestores, -⟩
  exact ⟨frames, hsent, hrestores⟩

/-- A store in which a single message fills a channel. -/
def crowdedHall : Breakable MemoryStore where
  store :=
    { servers := [7001]
      users :=
        [{ id := 1, server := 7001, username := ⟨"gwen", by decide⟩, ip := Service.alice.ip }]
      channels := [⟨1, ⟨"ballroom", by decide⟩, 7001⟩]
      messages := [⟨1, 1, 1, ⟨"gwen", by decide⟩, letters 16777203⟩]
      lastUser := 1
      lastChannel := 1
      lastMessage := 1 }

-- A history of one message that is too large is not sent at all.
theorem replies_letters {n : Nat} (h : Frame.maxPacket < n + loneOverhead) (name : Name)
    (network : Network) (source target : SocketAddress) (correlation : UInt32) :
    replies network source target correlation (responsePacket .openChannel .success
      ([⟨1, 1, 1, name, letters n⟩].map Message.row)) = [] := by
  have hlarge : ¬ (letters n).utf8ByteSize + loneOverhead ≤ Frame.maxPacket := by
    rw [utf8ByteSize_letters]
    exact Nat.not_le.mpr h
  rw [List.map_singleton, replies, Frame.split_eq, length_lonePacket, if_neg hlarge]

/-- A server on this store. -/
def ballroom : Venue MemoryStore :=
  (Venue.fresh crowdedHall 7001 parlour.settings).run [.routed 0 (.start false)]

/-- A server on the store of the hall. -/
def hallVenue : Venue Backing :=
  (Venue.fresh hall 7001 parlour.settings).run [.routed 0 (.start false)]

/-- The same server when its inbox is full. -/
def thronged : Venue Backing :=
  hallVenue.run (List.replicate Endpoint.inboxCapacity (nudged 0))

/-- A client asks for a channel. -/
def asking : Occasion :=
  .routed 0 (.happening (.datagram Service.alice openingRequest.encode))

/-- The history of the only channel is too large for a packet, so no answer goes out when the
    request is taken in. -/
theorem ballroom_silent :
    ((ballroom.step asking).2.step (.routed 0 (.happening .packet))).1 = .sent [] := by
  have horderly : Orderly crowdedHall :=
    ⟨(Ascends.nil 0).append _ (by decide), (Ascends.nil 0).append _ (by decide),
      (Ascends.nil 0).append _ (by decide)⟩
  have hapart : Apart crowdedHall := List.pairwise_singleton _ _
  have hupheld : Venue.Upheld 7001 parlour.settings ballroom :=
    (Venue.Upheld.fresh horderly hapart 7001 parlour.settings).run _
  have hrunning : ballroom.hosted.isRunning = true := rfl
  have hheader : RequestHeader.decode openingRequest.payload =
      (.ok ⟨.openChannel⟩, leBytes 4 1) := rfl
  have hbody : (Payload.decode : Decoder OpenRequest).value (leBytes 4 1) = .ok ⟨1⟩ := rfl
  have hknown : (ballroom.hosted.live.presence.find? Service.alice).isSome = true := rfl
  rcases Option.isSome_iff_exists.mp hknown with ⟨user, huser⟩
  have hhosts : Hosts ballroom.store 7001 1 :=
    ⟨⟨1, ⟨"ballroom", by decide⟩, 7001⟩, List.mem_cons_self, rfl, rfl⟩
  -- The store is as it was when the request came in.
  have hstore := (hupheld.step_arrives hrunning openingRequest_frame rfl (by decide) .routed 0
    Service.alice).1
  have hfound : Gateway.selectChannels (ballroom.step asking).2.store
      { id := some 1, server := some 7001 } = .ok [⟨1, ⟨"ballroom", by decide⟩, 7001⟩] :=
    (congrArg (Gateway.selectChannels · _) hstore).trans rfl
  have hmessages : Gateway.selectMessages (ballroom.step asking).2.store { channel := some 1 } =
      .ok [⟨1, 1, 1, ⟨"gwen", by decide⟩, letters 16777203⟩] :=
    (congrArg (Gateway.selectMessages · _) hstore).trans rfl
  have hsent := hupheld.history_sent hrunning openingRequest_frame rfl rfl hheader hbody huser
    hhosts (by decide) .routed 0 (fun _ hnone => absurd hnone List.not_mem_nil) rfl rfl hfound
    hmessages .routed 0
  rwa [replies_letters (by decide)] at hsent

theorem hallVenue_upheld : Venue.Upheld 7001 parlour.settings hallVenue :=
  (Venue.Upheld.fresh hall_orderly hall_apart 7001 parlour.settings).run _

theorem hallVenue_nudged {count : Nat} (h : count ≤ Endpoint.inboxCapacity) :
    let after := hallVenue.run (List.replicate count (nudged 0))
    after.store = hallVenue.store ∧ after.hosted.live = hallVenue.hosted.live ∧
      after.inbox = List.replicate count (nudge.inbound Service.bob) := by
  have hrunning : hallVenue.hosted.isRunning = true := rfl
  have hempty : hallVenue.inbox = [] := rfl
  have hframe : Frame.decode nudge.encode = .ok nudge := Frame.decode_encode (by decide)
  have hroom : hallVenue.inbox.length + count ≤ Endpoint.inboxCapacity := by
    rwa [hempty, List.length_nil, Nat.zero_add]
  have hafter := hallVenue_upheld.run_arrives hrunning hframe rfl (by decide) .routed 0
    Service.bob hroom
  rwa [hempty, List.nil_append] at hafter

/-- A full inbox is all that has become of the server. -/
theorem thronged_full :
    thronged.store = hallVenue.store ∧ thronged.hosted.live = hallVenue.hosted.live ∧
      thronged.inbox = List.replicate Endpoint.inboxCapacity (nudge.inbound Service.bob) := by
  unfold thronged
  exact hallVenue_nudged (Nat.le_refl Endpoint.inboxCapacity)

theorem thronged_upheld :
    Venue.Upheld 7001 parlour.settings thronged ∧ thronged.hosted.isRunning = true := by
  refine ⟨hallVenue_upheld.run _, (hallVenue_upheld.run_lasts rfl ?_).running⟩
  intro occasion hoccasion
  rw [List.eq_of_mem_replicate hoccasion]
  simp [nudged, Occasion.routed]

/-- The request finds the inbox full of packets that want no answer. -/
theorem thronged_silent (count : Nat) :
    ∀ notice ∈ (thronged.step asking).2.notices
      (List.replicate count (.routed 0 (.happening .packet))), notice = .sent [] := by
  rcases thronged_upheld with ⟨hupheld, hrunning⟩
  have hinbox := (hupheld.step_arrives hrunning openingRequest_frame rfl (by decide) .routed 0
    Service.alice).2.2
  rw [thronged_full.2.2, List.length_replicate, if_neg (Nat.lt_irrefl _)] at hinbox
  refine (hupheld.step asking).take_all_silent ?_ .routed 0 count
  intro packet hpacket
  rw [asking, Occasion.routed, hinbox] at hpacket
  rw [List.eq_of_mem_replicate hpacket]
  rfl

/-- Two servers run, know the user who asks and have the channel, their stores answer, and
    the network takes everything. One takes the request in at once, but the history is too
    large for a packet, and no answer goes out: what one member can say, no member can read
    again. The other has no room for the request, and nothing ever goes out, however many
    packets it takes in. -/
theorem history_unanswered :
    (ballroom.hosted.isRunning = true ∧
      (ballroom.hosted.live.presence.find? Service.alice).isSome = true ∧
      Hosts ballroom.store 7001 1 ∧ ballroom.store.broken = [] ∧ ballroom.inbox = [] ∧
      ((ballroom.step asking).2.step (.routed 0 (.happening .packet))).1 = .sent []) ∧
    (thronged.hosted.isRunning = true ∧
      (thronged.hosted.live.presence.find? Service.alice).isSome = true ∧
      Hosts thronged.store 7001 1 ∧ thronged.store.broken = [] ∧
      ∀ count, ∀ notice ∈ (thronged.step asking).2.notices
        (List.replicate count (.routed 0 (.happening .packet))), notice = .sent []) := by
  rcases thronged_full with ⟨hstore, hlive, -⟩
  refine ⟨⟨rfl, rfl, ?_, rfl, rfl, ballroom_silent⟩,
    ⟨thronged_upheld.2, ?_, ?_, ?_, thronged_silent⟩⟩
  · exact ⟨⟨1, ⟨"ballroom", by decide⟩, 7001⟩, List.mem_cons_self, rfl, rfl⟩
  · rw [hlive]
    decide +kernel
  · rw [hstore]
    exact ⟨⟨1, ⟨"hall", by decide⟩, 7001⟩, by decide +kernel, rfl, rfl⟩
  · rw [hstore]
    rfl

end ChatHost
