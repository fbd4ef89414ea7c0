import ChatHost.Proofs.Server.Sweeps
import ChatHost.Proofs.Server.Viewing
import ChatHost.Proofs.Wire.RoundTrip
import Mathlib.Data.List.Perm.Subperm

/-!
# History

Whoever opens a channel is told what was said in it, as it was said.

What is told comes from the store, and what was said came in packets. In between, the
message has been decoded, its sender was found behind an address, and the store has put a
name to it. So what was said is taken down once more, from the packets alone: who has joined
and under which name (`Service.joined`), and who has said what (`Service.said`). The law is
that a store in memory holds just this (`Chronicle`), at every step and so in every run.

The name is the one thing that the packet which says something does not bring. The store
takes it from its record of the user, which it has made from the packet that they joined
with; only the role in it may change later.

Texts and names come off the wire without a NUL in them, so none is cut when they are read
once more. That a text and the NUL that ends it can be announced takes a bound on the length
of packets: they are to be shorter than four bytes can count. What the link puts together from
`Frame.maxFragments` datagrams is far shorter.

## Main definitions

* `Saying`: What was said, as it came in.
* `Service.members`: The users in the store, and their names.
* `Service.joined`: Whom a packet makes a member, and under which name.
* `Service.said`: What is said with a packet, and accepted.
* `Chronicle`: The store holds what was taken down.
* `Service.Fresh`: A server that starts without users and messages.
* `Service.Loads`: A channel is opened, and its history is the answer.

## Theorems

* `Course.says`: What a request adds to the queue.
* `Service.said_iff_silent`: What is said is what is handled in silence.
* `Chronicle.step`, `Chronicle.run`: The store holds what is taken down in a run.
* `history_faithful`: What is answered to those who open a channel.
-/

namespace ChatHost

open LawfulGateway

section Reading

/-- A header and a payload that are read one by one are read together. -/
theorem requestDecoder_value {α : Type} [Payload α] {payload body : Bytes}
    {header : RequestHeader} {a : α} (hheader : RequestHeader.decode payload = (.ok header, body))
    (hbody : (Payload.decode : Decoder α).value body = .ok a) :
    (requestDecoder α).value payload = .ok (header, a) := by
  have hread : (requestDecoder α) payload =
      Decoder.bind Payload.decode (fun a => Decoder.pure (header, a)) body := by
    change Decoder.bind RequestHeader.decode _ payload = _
    rw [Decoder.bind, hheader]
    rfl
  rw [Decoder.value] at hbody ⊢
  rcases hdecode : (Payload.decode : Decoder α) body with ⟨result, rest⟩
  rw [hdecode] at hbody
  rw [hread, Decoder.bind, hdecode, show result = .ok a from hbody]
  rfl

/-- A text that came in has no NUL in it, and is shorter than the packet that it came in. -/
theorem SayRequest.read {payload : Bytes} {header : RequestHeader} {request : SayRequest}
    (h : (requestDecoder SayRequest).value payload = .ok (header, request)) :
    '\x00' ∉ request.text.toList ∧ request.text.utf8ByteSize < payload.length := by
  rcases Decoder.value_ok h with ⟨rest, hread⟩
  rcases Decoder.bind_ok hread with ⟨header', body, hheader, hread⟩
  rcases Decoder.bind_ok hread with ⟨request', rest', hrequest, hpure⟩
  obtain rfl : request' = request := congrArg Prod.snd (Except.ok.inj (Prod.mk.inj hpure).1)
  rcases Decoder.bind_ok hheader with ⟨code, behind, hcode, hkind⟩
  rcases Decoder.bind_ok hkind with ⟨kind, behind', hkind, hpure⟩
  have hbody : body = behind := by
    rw [← (Prod.mk.inj hpure).2, (Decoder.ofOption_ok hkind).2]
  rcases Decoder.bind_ok hrequest with ⟨length, first, hlength, hrequest⟩
  rcases Decoder.bind_ok hrequest with ⟨channel, second, hchannel, hrequest⟩
  rcases Decoder.bind_ok hrequest with ⟨text, third, htext, hpure⟩
  obtain rfl : SayRequest.mk channel text = request' := Except.ok.inj (Prod.mk.inj hpure).1
  rcases Decoder.text_ok htext with ⟨hnul, hsize⟩
  refine ⟨hnul, ?_⟩
  rw [(Decoder.u32_ok hchannel).1, (Decoder.u32_ok hlength).1, hbody, (Decoder.u32_ok hcode).1,
    List.length_drop, List.length_drop, List.length_drop] at hsize
  have hlong := (Decoder.u32_ok hcode).2
  simp only
  omega

/-- A name that came in has no NUL in it. -/
theorem JoinRequest.read {payload : Bytes} {header : RequestHeader} {request : JoinRequest}
    (h : (requestDecoder JoinRequest).value payload = .ok (header, request)) :
    '\x00' ∉ request.username.text.toList := by
  rcases Decoder.value_ok h with ⟨rest, hread⟩
  rcases Decoder.bind_ok hread with ⟨header', body, -, hread⟩
  rcases Decoder.bind_ok hread with ⟨request', rest', hrequest, hpure⟩
  obtain rfl : request' = request := congrArg Prod.snd (Except.ok.inj (Prod.mk.inj hpure).1)
  rcases Decoder.bind_ok hrequest with ⟨username, first, hname, hpure⟩
  obtain rfl : JoinRequest.mk username = request' := Except.ok.inj (Prod.mk.inj hpure).1
  exact Decoder.name_ok hname

end Reading

section Courses

variable {σ : Type} [Gateway σ] {server : ServerId} {request : Request} {w w' : World σ}
  {handler : Handler} {calls : List StoreRequest} {reply : Except HandlerError Reply}

-- What is handled has a handler.
theorem header_of_handled {peer : SocketAddress} {packet : Bytes} {now : Instant}
    {kind : RequestKind} (h : (dispatch .standard server peer packet now w).1 =
      .handled kind reply) :
    ∃ (handler : Handler) (body : Bytes),
      RequestHeader.decode packet = (.ok ⟨handler.kind⟩, body) := by
  rcases hheader : RequestHeader.decode packet with ⟨error | ⟨⟨kind'⟩⟩, body⟩
  · rw [dispatch, hheader] at h
    exact absurd h (by simp)
  · rcases hserved : HandlerTable.standard.find? kind' with _ | handler
    · rw [dispatch, hheader] at h
      simp [hserved] at h
    · rw [← HandlerTable.kind_of_find?_standard hserved]
      exact ⟨handler, body, rfl⟩

/-- What a request adds to the queue: nothing, or what its sender has said, as the store has
    taken it. Only the latter is handled in silence. -/
theorem Course.says (h : Course server request w handler calls reply w') :
    (w'.live.queue = w.live.queue ∧ reply ≠ .ok .silent) ∨
      ∃ (channel : ChannelId) (text : String) (sender : TrackedUser) (receipt : Receipt),
        handler = .say ∧ reply = .ok .silent ∧
        (Payload.decode : Decoder SayRequest).value request.payload = .ok ⟨channel, text⟩ ∧
        w.live.presence.find? request.peer = some sender ∧
        Gateway.insertMessage w.store text channel sender.id = (.ok receipt, w'.store) ∧
        w'.live.queue = w.live.queue ++ [receipt.message channel sender.id text] := by
  cases h with
  | said hdecode howns hfound honline hstore =>
      exact Or.inr ⟨_, _, _, _, rfl, rfl, hdecode, hfound, hstore, rfl⟩
  | _ => exact Or.inl ⟨rfl, by simp⟩

-- Who is answered when they open a channel is known.
theorem Course.opener_known {answer : Bytes}
    (h : Course server request w .openChannel calls (.ok (.answer answer)) w') :
    ∃ user, w.live.presence.find? request.peer = some user := by
  cases h with
  | refused hhandler hrefusal => simp at hhandler
  | listFailed hhandler hstore => simp at hhandler
  | listed hhandler hstore => simp at hhandler
  | historyFailed hdecode howns hfound hstore => exact ⟨_, hfound⟩
  | opened hdecode howns hfound hstore => exact ⟨_, hfound⟩

-- Nobody is tracked in one roster and not in the other if they are one.
theorem Tracker.untracked_of_roster {t t' : Tracker} (h : t'.roster = t.roster) :
    (t'.users.map (·.id)).filter (fun id => !t.contains id) = [] := by
  rw [List.filter_eq_nil_iff]
  intro id hid
  rcases List.mem_map.mp hid with ⟨user, huser, rfl⟩
  rcases exists_get? huser with ⟨found, hfound⟩
  rcases hget : t.get? user.id with _ | known
  · rw [get?_none_of_roster h hget] at hfound
    exact absurd hfound (by simp)
  · simp [contains, hget]

variable [LawfulGateway σ]

-- Who joins stands behind all who are tracked.
theorem World.Sound.ids_join (h : World.Sound server w) {ip : Ip} {username : Name}
    {record : UserRecord} {store : σ}
    (hstore : Gateway.insertUser w.store server ip username = (.ok record, store))
    (peer : SocketAddress) (now : Instant) :
    (w.live.presence.join record peer now).users.map (·.id) =
      w.live.presence.users.map (·.id) ++ [record.id] := by
  have hjoin : w.live.presence.join record peer now = ⟨w.live.presence.users ++
      [{ TrackedUser.ofRecord record now with address := some peer }]⟩ :=
    Tracker.insert_last _ (h.lt_newcomer hstore)
  rw [hjoin, List.map_append]
  rfl

end Courses

/-- What was said, as it came in: the id that it was given, the channel and the text from the
    packet, and the user behind the address that the packet came from. -/
structure Saying where
  id : MessageId
  channel : ChannelId
  sender : UserId
  text : String
  deriving DecidableEq

namespace Saying

/-- The message that was said, given the names of users. -/
def message (names : UserId → Name) (saying : Saying) : Message :=
  ⟨saying.id, saying.channel, saying.sender, names saying.sender, saying.text⟩

/-- The row in which it is told. -/
def row (names : UserId → Name) (saying : Saying) : MessageRow :=
  ⟨saying.id, saying.sender, names saying.sender, saying.text⟩

end Saying

namespace Service

section Minutes

variable {σ : Type} [Gateway σ]

/-- A packet opens a channel, and is answered with success. -/
def Loads (s : Service σ) (channel : ChannelId) (o : Occurrence) (answer : Bytes) : Prop :=
  ∃ (peer : SocketAddress) (payload body rest : Bytes), o = .packet peer payload ∧
    RequestHeader.decode payload = (.ok ⟨.openChannel⟩, body) ∧
    (Payload.decode : Decoder OpenRequest).value body = .ok ⟨channel⟩ ∧
    s.answer? o = some answer ∧
    ResponseHeader.decode answer = (.ok ⟨.openChannel, .success⟩, rest)

/-- Whom an occurrence adds to those who are tracked. -/
def newcomers (s : Service σ) (o : Occurrence) : List UserId :=
  ((s.step o).presence.users.map (·.id)).filter fun id => !s.presence.contains id

/-- Whom a packet makes a member, and the name that it brings. -/
def joined (s : Service σ) (o : Occurrence) : List (UserId × Name) :=
  match o with
  | .packet _ payload =>
    match (requestDecoder JoinRequest).value payload with
    | .ok (_, request) => (s.newcomers o).map fun id => (id, request.username)
    | .error _ => []
  | _ => []

/-- What is said with a packet that is handled in silence, by whom it comes from. The id is
    that under which it is queued. -/
def said (s : Service σ) (o : Occurrence) : List Saying :=
  match o with
  | .packet peer payload =>
    match (dispatch .standard s.server peer payload s.clock s.world).1,
      (requestDecoder SayRequest).value payload, s.presence.find? peer with
    | .handled .say (.ok .silent), .ok (_, request), some sender =>
      ((s.step o).queue.drop s.queue.length).map fun message =>
        ⟨message.id, request.channel, sender.id, request.text⟩
    | _, _, _ => []
  | _ => []

variable [LawfulGateway σ] {s : Service σ}

/-- The users in the store and their names. -/
def members (s : Service σ) : List (UserId × Name) :=
  (records s.world.store).users.map fun user => (user.id, user.username)

/-- The answer is what the store has of the channel, and nothing is said with the packet. -/
theorem Loads.told {channel : ChannelId} {o : Occurrence} {answer : Bytes}
    (h : s.Loads channel o answer) (hs : s.Sound) :
    answer = responsePacket .openChannel .success
        ((inChannel channel s.stored).map Message.row) ∧
      o.isElsewhere = false ∧ s.accepted o = [] := by
  rcases h with ⟨peer, payload, body, rest, rfl, hheader, hbody, hanswer, hsuccess⟩
  have hkind : RequestHeader.decode payload = (.ok ⟨Handler.openChannel.kind⟩, body) := hheader
  rcases s.packet_course peer hkind with ⟨reply, hcourse, hreply⟩
  rw [hanswer] at hreply
  rw [Dispatched.answer?_handled hreply.symm] at hcourse
  rcases hcourse.opener_known with ⟨touched, htouched⟩
  rcases World.touch_find? ⟨touched, htouched, rfl⟩ with ⟨user, huser, -⟩
  exact ⟨(open_granted hs huser hheader hbody hanswer hsuccess).1, rfl,
    (open_adds_nothing hs.world.orderly peer hheader).1⟩

-- Where the queue stays as it is nothing is accepted, and nothing is said.
theorem quiet_of_queue (hs : Orderly s.world.store) {peer : SocketAddress} {payload : Bytes}
    (hqueue : (s.step (.packet peer payload)).queue = s.queue) :
    s.accepted (.packet peer payload) = [] ∧ s.said (.packet peer payload) = [] := by
  have hadds := (packet_adds hs peer payload).2.1
  rw [hqueue] at hadds
  refine ⟨List.self_eq_append_right.mp hadds, ?_⟩
  simp only [said, hqueue, List.drop_length]
  split
  · rfl
  · rfl

/-- What is accepted of a packet is what is said with it, and this is what makes it one that
    is handled in silence. -/
theorem packet_says (hs : Orderly s.world.store) (peer : SocketAddress) (payload : Bytes) :
    (s.accepted (.packet peer payload) = [] ∧ s.said (.packet peer payload) = [] ∧
        (dispatch .standard s.server peer payload s.clock s.world).1 ≠
          .handled .say (.ok .silent)) ∨
      ∃ (channel : ChannelId) (text : String) (sender : TrackedUser) (receipt : Receipt),
        Gateway.insertMessage s.world.store text channel sender.id =
          (.ok receipt, (s.step (.packet peer payload)).world.store) ∧
        s.accepted (.packet peer payload) = [receipt.message channel sender.id text] ∧
        s.said (.packet peer payload) = [⟨receipt.id, channel, sender.id, text⟩] := by
  by_cases hserved : ∃ (handler : Handler) (body : Bytes),
      RequestHeader.decode payload = (.ok ⟨handler.kind⟩, body)
  · rcases hserved with ⟨handler, body, hheader⟩
    rcases s.packet_handled peer hheader with ⟨reply, hcourse, houtcome⟩
    rcases hcourse.says with ⟨hqueue, hreply⟩ | ⟨channel, text, touched, receipt, rfl, rfl,
      hdecode, hfound, hstore, hqueue⟩
    · rw [World.touch_queue] at hqueue
      rcases quiet_of_queue hs hqueue with ⟨haccepted, hsaid⟩
      refine Or.inl ⟨haccepted, hsaid, fun hsilent => hreply ?_⟩
      rw [houtcome] at hsilent
      exact (Dispatched.handled.inj hsilent).2
    · rw [World.touch_queue] at hqueue
      rw [World.touch_store] at hstore
      -- The sender is the one who was behind the address before the sign of life.
      rcases World.touch_find? ⟨touched, hfound, rfl⟩ with ⟨sender, hsender, hid⟩
      rw [← hid] at hstore hqueue
      have hqueue' : (s.step (.packet peer payload)).queue =
          s.queue ++ [receipt.message channel sender.id text] := hqueue
      have hadds := (packet_adds hs peer payload).2.1
      have haccepted := List.append_cancel_left (hadds.symm.trans hqueue')
      have hrequest := requestDecoder_value hheader hdecode
      refine Or.inr ⟨channel, text, sender, receipt, hstore, haccepted, ?_⟩
      simp only [said, houtcome, Handler.kind, hrequest, presence, hsender, hqueue',
        List.drop_left]
      rfl
  · rcases dispatch_cases s.server peer payload s.clock s.world with ⟨-, hsame⟩ | hserved'
    · rcases quiet_of_queue hs (by rw [queue, step, hsame, queue]) with ⟨haccepted, hsaid⟩
      exact Or.inl ⟨haccepted, hsaid, fun hsilent => hserved (header_of_handled hsilent)⟩
    · exact absurd hserved' hserved

/-- A packet that is handled in silence says one thing, and no other says anything. -/
theorem said_iff_silent (hs : Orderly s.world.store) (peer : SocketAddress) (payload : Bytes) :
    (∃ saying, s.said (.packet peer payload) = [saying]) ↔
      (dispatch .standard s.server peer payload s.clock s.world).1 =
        .handled .say (.ok .silent) := by
  constructor
  · rintro ⟨saying, hsaid⟩
    unfold said at hsaid
    simp only at hsaid
    split at hsaid
    · next hsilent _ _ => exact hsilent
    · exact absurd hsaid.symm (List.cons_ne_nil _ _)
  · intro hsilent
    rcases packet_says hs peer payload with ⟨-, -, hother⟩ | ⟨_, _, _, _, -, -, hsaid⟩
    · exact absurd hsilent hother
    · exact ⟨_, hsaid⟩

/-- Whom a packet makes a member the store knows under the name that the packet has
    brought. -/
theorem packet_enrolls (hs : s.Sound) (peer : SocketAddress) (payload : Bytes) :
    (s.step (.packet peer payload)).members =
      s.members ++ s.joined (.packet peer payload) := by
  have hnone : (s.step (.packet peer payload)).presence.roster = s.presence.roster →
      s.joined (.packet peer payload) = [] := by
    intro hroster
    rw [joined, newcomers, Tracker.untracked_of_roster hroster]
    split
    · rfl
    · rfl
  rcases dispatch_cases s.server peer payload s.clock s.world with
    ⟨-, hsame⟩ | ⟨handler, body, hheader⟩
  · have hworld : (s.step (.packet peer payload)).world = s.world := hsame
    rw [hnone (by rw [presence, hworld, presence]), List.append_nil, members, hworld, members]
  · rcases s.packet_course peer hheader with ⟨reply, hcourse, -⟩
    have htouched : (s.world.touch peer s.clock).live.presence.roster = s.presence.roster :=
      World.roster_touch s.world peer s.clock
    have hsound := hs.world.touch peer s.clock
    rcases hcourse.enrolls hsound.orderly with ⟨hroster, husers⟩ | ⟨username, record, store, rfl,
      hdecode, hstore, hworld⟩
    · rw [World.touch_store] at husers
      rw [hnone (hroster.trans htouched), List.append_nil, members, husers, members]
    · rcases insertUser_ok hsound.orderly hstore with ⟨-, hrecord, -, hrecords⟩
      have hids := hsound.ids_join hstore peer s.clock
      rw [World.touch_store] at hstore hrecords
      have huntracked : s.presence.contains record.id = false := by
        rw [Tracker.contains, presence, hs.world.get?_newcomer hstore, Option.isSome_none]
      have hpresence : (s.step (.packet peer payload)).presence =
          (s.world.touch peer s.clock).live.presence.join record peer s.clock := by
        rw [presence, hworld, World.setPresence]
      have hnew : s.newcomers (.packet peer payload) = [record.id] := by
        rw [newcomers, hpresence, hids, List.filter_append, Tracker.untracked_of_roster htouched]
        simp [huntracked]
      have hrequest := requestDecoder_value hheader hdecode
      have hstored : (records (s.step (.packet peer payload)).world.store).users =
          (records s.world.store).users ++ [record] := by
        rw [hworld, World.setPresence, hrecords]
      simp only [joined, hrequest, hnew, members, hstored, List.map_append, List.map_cons,
        List.map_nil]
      rw [hrecord]

/-- What comes to pass at a server that has its store to itself adds to the users in it those
    who join, under the names that they bring. -/
theorem step_enrolls (hs : s.Sound) {o : Occurrence} (hown : o.isElsewhere = false) :
    (s.step o).members = s.members ++ s.joined o := by
  have hidle : s.members = s.members ++ [] := (List.append_nil _).symm
  cases o with
  | packet peer payload => exact packet_enrolls hs peer payload
  | wait ms => exact hidle
  | broadcast accepts => exact hidle
  | ask staleAfter => exact hidle
  | settle alive => exact hidle
  | elsewhere request => simp [Occurrence.isElsewhere] at hown
  | outage broken => exact hidle
  | grant username role =>
      refine Eq.trans ?_ hidle
      have hstore : (s.step (.grant username role)).world.store =
          (Gateway.updateRole s.world.store s.server username role).2 := rfl
      rw [members, hstore, members]
      rcases hresult : Gateway.updateRole s.world.store s.server username role with
        ⟨fault | found, store⟩
      · rw [(updateRole_error hs.world.orderly hresult).2]
      · -- The role may change, and neither id nor name does.
        rw [(updateRole_ok hs.world.orderly hresult).2, List.map_map]
        refine List.map_congr_left fun user _ => ?_
        rw [Function.comp_apply, UserRecord.withRoleIf]
        split
        · rfl
        · rfl

end Minutes

section Telling

/-- A store in memory signs a message with the name of the user who sends it, and gives it an
    id that is not zero. -/
theorem insertMessage_signed {b b' : Breakable MemoryStore} {text : String}
    {channel : ChannelId} {sender : UserId} {receipt : Receipt}
    (h : Gateway.insertMessage b text channel sender = (.ok receipt, b')) :
    (∃ user ∈ (records b).users, user.id = sender ∧ user.username = receipt.senderName) ∧
      receipt.id ≠ 0 := by
  have hstore : b.store.insertMessage text channel sender = (.ok receipt, b'.store) :=
    Breakable.change_ok h
  rw [MemoryStore.insertMessage] at hstore
  split at hstore
  · simp at hstore
  · next user huser =>
    split at hstore
    · simp at hstore
    · split at hstore
      · simp at hstore
      · next id hid =>
        rw [← Except.ok.inj (Prod.mk.inj hstore).1]
        have hfound := List.find?_some huser
        refine ⟨⟨user, List.mem_of_find?_eq_some huser, of_decide_eq_true hfound, rfl⟩, ?_⟩
        rintro rfl
        have hlater := MemoryStore.lt_of_nextId hid
        simp only [UInt32.toNat_zero] at hlater
        omega

variable {s : Service MemoryStore}

/-- What is accepted is what is said, signed with the name under which the store knows its
    sender. -/
theorem step_tells (hs : s.Sound) (o : Occurrence) :
    (∀ names : UserId → Name, (∀ entry ∈ s.members, names entry.1 = entry.2) →
      s.accepted o = (s.said o).map (·.message names)) ∧
      ∀ saying ∈ s.said o, saying.sender ∈ s.members.map Prod.fst ∧ saying.id ≠ 0 := by
  cases o with
  | packet peer payload =>
      rcases packet_says hs.world.orderly peer payload with
        ⟨haccepted, hsaid, -⟩ | ⟨channel, text, sender, receipt, hstore, haccepted, hsaid⟩
      · rw [haccepted, hsaid]
        exact ⟨fun _ _ => rfl, fun saying h => absurd h List.not_mem_nil⟩
      · rcases insertMessage_signed hstore with ⟨⟨user, huser, hid, hname⟩, hzero⟩
        have hmember : (sender.id, receipt.senderName) ∈ s.members := by
          rw [← hid, ← hname]
          exact List.mem_map_of_mem huser
        rw [haccepted, hsaid]
        refine ⟨fun names hnames => ?_, fun saying hsaying => ?_⟩
        · have hsigned : names sender.id = receipt.senderName := hnames _ hmember
          simp only [List.map_cons, List.map_nil, Saying.message, Receipt.message, hsigned]
        · rw [List.mem_singleton.mp hsaying]
          exact ⟨List.mem_map.mpr ⟨_, hmember, rfl⟩, hzero⟩
  | _ => exact ⟨fun _ _ => rfl, fun saying h => absurd h List.not_mem_nil⟩

/-- The store holds those who were taken down as joining, and what was taken down as said,
    signed with the names under which they did. -/
structure Chronicle (s : Service MemoryStore) (joins : List (UserId × Name))
    (sayings : List Saying) : Prop where
  sound : s.Sound
  members : s.members = joins
  stored : ∀ names : UserId → Name, (∀ entry ∈ joins, names entry.1 = entry.2) →
    s.stored = sayings.map (·.message names)
  sayings : ∀ saying ∈ sayings, saying.sender ∈ joins.map Prod.fst ∧ saying.id ≠ 0

namespace Chronicle

variable {joins : List (UserId × Name)} {sayings : List Saying}

/-- The store goes on holding what is taken down. -/
theorem step (h : Chronicle s joins sayings) {o : Occurrence} (hown : o.isElsewhere = false) :
    Chronicle (s.step o) (joins ++ s.joined o) (sayings ++ s.said o) := by
  rcases step_tells h.sound o with ⟨htells, hsenders⟩
  rw [h.members] at htells hsenders
  refine ⟨h.sound.step o, ?_, fun names hnames => ?_, fun saying hsaying => ?_⟩
  · rw [step_enrolls h.sound hown, h.members]
  · have hbefore : ∀ entry ∈ joins, names entry.1 = entry.2 :=
      fun entry hentry => hnames entry (List.mem_append_left _ hentry)
    rcases step_stores h.sound.world.orderly o with ⟨new, hnew, -, hall⟩
    rw [hnew, hall hown, htells names hbefore, h.stored names hbefore, List.map_append]
  · rw [List.map_append]
    have hearlier : saying.sender ∈ joins.map Prod.fst ∧ saying.id ≠ 0 :=
      (List.mem_append.mp hsaying).elim (h.sayings saying) (hsenders saying)
    exact hearlier.imp_left (List.mem_append_left _)

theorem run {s : Service MemoryStore} (h : Chronicle s joins sayings) {history : List Occurrence}
    (hown : ∀ o ∈ history, o.isElsewhere = false) :
    Chronicle (s.run history) (joins ++ collect joined s history)
      (sayings ++ collect said s history) := by
  induction history generalizing s joins sayings with
  | nil =>
      rw [collect, collect, List.append_nil, List.append_nil]
      exact h
  | cons o rest ih =>
      have hrest := ih (h.step (hown o List.mem_cons_self))
        fun p hp => hown p (List.mem_cons_of_mem _ hp)
      rwa [List.append_assoc, List.append_assoc] at hrest

end Chronicle

/-- A server that starts on a store in memory which has servers and channels, and no users or
    messages yet. Nobody is tracked. -/
structure Fresh (s : Service MemoryStore) : Prop where
  orderly : Orderly s.world.store
  users : s.world.store.store.users = []
  messages : s.world.store.store.messages = []
  presence : s.presence = .empty
  queue : s.queue = []
  asked : s.asked = []

theorem Fresh.chronicle (h : s.Fresh) : Chronicle s [] [] where
  sound := Started.sound ⟨h.orderly, h.queue, h.asked, Or.inl h.presence⟩
  members := by
    change s.world.store.store.users.map _ = []
    rw [h.users, List.map_nil]
  stored _ _ := h.messages
  sayings _ hsaying := absurd hsaying List.not_mem_nil

-- Ids that differ, and none of which is zero, are fewer than there are.
theorem length_lt_of_nodup {ids : List UInt32} (h : ids.Nodup) (hzero : 0 ∉ ids) :
    ids.length < UInt32.size := by
  have hnodup : ((0 :: ids).map UInt32.toNat).Nodup :=
    (List.nodup_cons.mpr ⟨hzero, h⟩).map fun _ _ => UInt32.toNat_inj.mp
  have hsubset : (0 :: ids).map UInt32.toNat ⊆ List.range UInt32.size := by
    intro n hn
    rcases List.mem_map.mp hn with ⟨id, -, rfl⟩
    exact List.mem_range.mpr id.toNat_lt
  have hlength := (hnodup.subperm hsubset).length_le
  rw [List.length_map, List.length_cons, List.length_range] at hlength
  exact hlength

-- Where nobody is named twice there is a name for everybody.
theorem exists_names {joins : List (UserId × Name)} (h : (joins.map Prod.fst).Nodup) :
    ∃ names : UserId → Name, ∀ entry ∈ joins, names entry.1 = entry.2 := by
  induction joins with
  | nil => exact ⟨fun _ => .empty, fun entry hentry => absurd hentry List.not_mem_nil⟩
  | cons first rest ih =>
      rw [List.map_cons, List.nodup_cons] at h
      rcases ih h.2 with ⟨names, hnames⟩
      refine ⟨fun id => if id = first.1 then first.2 else names id, fun entry hentry => ?_⟩
      rcases List.mem_cons.mp hentry with rfl | hrest
      · exact if_pos rfl
      · have hne : entry.1 ≠ first.1 := fun heq => h.1 (heq ▸ List.mem_map_of_mem hrest)
        exact (if_neg hne).trans (hnames entry hrest)

namespace Chronicle

variable {joins more : List (UserId × Name)} {sayings since : List Saying}

-- Nobody joins twice, since the store gives every user an id of their own.
theorem exists_names (h : Chronicle s joins sayings) :
    ∃ names : UserId → Name, ∀ entry ∈ joins, names entry.1 = entry.2 := by
  refine Service.exists_names ?_
  have hids : joins.map Prod.fst = (records s.world.store).users.map (·.id) := by
    rw [← h.members, Service.members, List.map_map]
    rfl
  rw [hids]
  exact (List.pairwise_map.mpr (users_ascend h.sound.world.orderly)).nodup

/-- What was said in a channel is what the store has of it. -/
theorem inChannel_stored (h : Chronicle s joins sayings) {names : UserId → Name}
    (hnames : ∀ entry ∈ joins, names entry.1 = entry.2) (channel : ChannelId) :
    inChannel channel s.stored =
      (sayings.filter fun saying => decide (saying.channel = channel)).map (·.message names) := by
  rw [h.stored names hnames, inChannel, List.filter_map]
  rfl

/-- A channel in which nothing has been said since is as it was. -/
theorem inChannel_eq {s' : Service MemoryStore} (h : Chronicle s joins sayings)
    (h' : Chronicle s' (joins ++ more) (sayings ++ since)) {channel : ChannelId}
    (hquiet : ∀ saying ∈ since, saying.channel ≠ channel) :
    inChannel channel s'.stored = inChannel channel s.stored := by
  rcases h'.exists_names with ⟨names, hnames⟩
  have hsince : since.filter (fun saying => decide (saying.channel = channel)) = [] :=
    List.filter_eq_nil_iff.mpr fun saying hsaying heq =>
      hquiet saying hsaying (of_decide_eq_true heq)
  rw [h'.inChannel_stored hnames, List.filter_append, hsince, List.append_nil,
    h.inChannel_stored fun entry hentry => hnames entry (List.mem_append_left _ hentry)]

/-- Whatever was said has an id of its own, later than those of what was said before. -/
theorem ascends (h : Chronicle s joins sayings) :
    sayings.Pairwise fun first later => first.id < later.id := by
  rcases h.exists_names with ⟨names, hnames⟩
  have hascend := messages_ascend h.sound.world.orderly
  have hstored : (records s.world.store).messages = sayings.map (·.message names) :=
    h.stored names hnames
  rw [hstored, List.pairwise_map] at hascend
  exact hascend

-- There are fewer ids than four bytes can count.
theorem length_lt (h : Chronicle s joins sayings) : sayings.length < UInt32.size := by
  have hnodup : (sayings.map (·.id)).Nodup := (List.pairwise_map.mpr h.ascends).nodup
  have hzero : (0 : MessageId) ∉ sayings.map (·.id) := by
    intro hmem
    rcases List.mem_map.mp hmem with ⟨saying, hsaying, hid⟩
    exact (h.sayings saying hsaying).2 hid
  have hlength := length_lt_of_nodup hnodup hzero
  rwa [List.length_map] at hlength

end Chronicle

end Telling

section Legibility

variable {σ : Type} [Gateway σ]

-- What is seen of a run is seen of one of its steps.
theorem mem_collect {α : Type} {see : Service σ → Occurrence → List α} {s : Service σ}
    {history : List Occurrence} {a : α} (h : a ∈ collect see s history) :
    ∃ (t : Service σ) (o : Occurrence), o ∈ history ∧ a ∈ see t o := by
  induction history generalizing s with
  | nil => exact absurd h List.not_mem_nil
  | cons o rest ih =>
      rcases List.mem_append.mp h with hfirst | hrest
      · exact ⟨s, o, List.mem_cons_self, hfirst⟩
      · rcases ih hrest with ⟨t, p, hp, hsee⟩
        exact ⟨t, p, List.mem_cons_of_mem _ hp, hsee⟩

-- Whoever joins brings a name without a NUL.
theorem name_of_mem_joined {s : Service σ} {o : Occurrence} {entry : UserId × Name}
    (h : entry ∈ s.joined o) : '\x00' ∉ entry.2.text.toList := by
  unfold joined at h
  split at h
  · split at h
    · next hrequest =>
      rcases List.mem_map.mp h with ⟨id, -, rfl⟩
      exact JoinRequest.read hrequest
    · exact absurd h List.not_mem_nil
  · exact absurd h List.not_mem_nil

-- What is said has no NUL in it either, and is shorter than the packet that brings it.
theorem text_of_mem_said {s : Service σ} {o : Occurrence} {saying : Saying}
    (h : saying ∈ s.said o) : '\x00' ∉ saying.text.toList ∧
      ∃ peer payload, o = .packet peer payload ∧ saying.text.utf8ByteSize < payload.length := by
  unfold said at h
  split at h
  · next peer payload =>
    split at h
    · next hrequest _ =>
      rcases List.mem_map.mp h with ⟨message, -, rfl⟩
      rcases SayRequest.read hrequest with ⟨hnul, hsize⟩
      exact ⟨hnul, peer, payload, rfl, hsize⟩
    · exact absurd h List.not_mem_nil
  · exact absurd h List.not_mem_nil

-- Rows of texts without NULs, which can be announced, are read back as they are.
theorem decodeResponse_rows {rows : List MessageRow} (hcount : rows.length < UInt32.size)
    (hrows : ∀ row ∈ rows, '\x00' ∉ row.senderName.text.toList ∧ '\x00' ∉ row.text.toList ∧
      row.text.utf8ByteSize < UInt32.size - 1) :
    decodeResponse (List MessageRow) (responsePacket .openChannel .success rows) =
      .ok (⟨.openChannel, .success⟩, rows) := by
  have htexts : ∀ text ∈ Contents.texts rows,
      text.utf8ByteSize < UInt32.size - 1 ∧ '\x00' ∉ text.toList := by
    intro text htext
    rcases List.mem_flatMap.mp htext with ⟨row, hrow, hmem⟩
    rcases hrows row hrow with ⟨hname, hnul, hsize⟩
    rcases List.mem_pair.mp hmem with rfl | rfl
    · exact ⟨hsize, hnul⟩
    · exact ⟨Nat.lt_of_le_of_lt row.senderName.fits (by decide), hname⟩
  have hfits : Contents.Fits rows := by
    refine ⟨fun n hn => ?_, fun text htext => (htexts text htext).1⟩
    rcases List.mem_cons.mp hn with rfl | hrest
    · exact hcount
    · rcases List.mem_flatMap.mp hrest with ⟨row, -, hnone⟩
      exact absurd hnone List.not_mem_nil
  have hnul : Contents.NulFree rows := fun text htext => (htexts text htext).2
  rw [Legible.decodeResponse_eq hfits, Legible.untilNul_eq rows hnul]

end Legibility

end Service

open Service in
/-- History is as it was said. A server starts on a store in memory, without users and
    messages, and has it to itself; packets are shorter than four bytes can count. Whatever
    has come to pass, who opens a channel and is answered with success is told, in its order,
    all that was said in it and accepted: its id, its sender, the name under which they
    joined, and the text. If nothing more is accepted in the channel, whoever opens it later
    is answered with the same bytes. -/
theorem history_faithful (s : Service MemoryStore) (hs : s.Fresh) (before : List Occurrence)
    (hown : ∀ o ∈ before, o.isElsewhere = false)
    (hlength : ∀ peer payload, Occurrence.packet peer payload ∈ before →
      payload.length < UInt32.size)
    {channel : ChannelId} {load : Occurrence} {answer : Bytes}
    (hload : (s.run before).Loads channel load answer) :
    (∃ names : UserId → Name,
      (∀ entry ∈ collect joined s before, names entry.1 = entry.2) ∧
      (∀ saying ∈ collect said s before,
        saying.sender ∈ (collect joined s before).map Prod.fst) ∧
      decodeResponse (List MessageRow) answer = .ok (⟨.openChannel, .success⟩,
        ((collect said s before).filter fun saying => decide (saying.channel = channel)).map
          (·.row names))) ∧
    ((collect said s before).Pairwise fun first later => first.id < later.id) ∧
    ∀ (between : List Occurrence) (again : Occurrence) (answer' : Bytes),
      (∀ o ∈ between, o.isElsewhere = false) →
      (∀ saying ∈ collect said ((s.run before).step load) between, saying.channel ≠ channel) →
      (s.run (before ++ load :: between)).Loads channel again answer' → answer' = answer := by
  have hchronicle := hs.chronicle.run hown
  rw [List.nil_append, List.nil_append] at hchronicle
  rcases hload.told hchronicle.sound with ⟨hanswer, hload_own, hnothing⟩
  refine ⟨?_, hchronicle.ascends, ?_⟩
  · rcases hchronicle.exists_names with ⟨names, hnames⟩
    refine ⟨names, hnames, fun saying h => (hchronicle.sayings saying h).1, ?_⟩
    rw [hanswer, hchronicle.inChannel_stored hnames, List.map_map]
    refine decodeResponse_rows ?_ fun row hrow => ?_
    · rw [List.length_map]
      exact Nat.lt_of_le_of_lt (List.length_filter_le _ _) hchronicle.length_lt
    · rcases List.mem_map.mp hrow with ⟨saying, hmem, rfl⟩
      have hsaying := List.mem_of_mem_filter hmem
      rcases List.mem_map.mp (hchronicle.sayings saying hsaying).1 with ⟨entry, hentry, hid⟩
      rcases mem_collect hentry with ⟨t, o, -, hjoined⟩
      rcases mem_collect hsaying with ⟨t', o', ho, hsaid⟩
      rcases text_of_mem_said hsaid with ⟨hnul, peer, payload, rfl, hsize⟩
      have hname : names saying.sender = entry.2 := by
        rw [← hid]
        exact hnames entry hentry
      have hpacket := hlength peer payload ho
      refine ⟨?_, hnul, Nat.lt_of_lt_of_le hsize (Nat.le_sub_one_of_lt hpacket)⟩
      change '\x00' ∉ (names saying.sender).text.toList
      rw [hname]
      exact name_of_mem_joined hjoined
  · intro between again answer' hbetween hquiet hagain
    have hload_said : (s.run before).said load = [] := by
      rcases hchronicle.exists_names with ⟨names, hnames⟩
      rw [← hchronicle.members] at hnames
      have htells := (step_tells hchronicle.sound load).1 names hnames
      rw [hnothing] at htells
      exact List.map_eq_nil_iff.mp htells.symm
    have hlater := (hchronicle.step hload_own).run hbetween
    rw [hload_said, List.append_nil, List.append_assoc] at hlater
    have hrun : s.run (before ++ load :: between) = ((s.run before).step load).run between := by
      rw [run_append, run_cons]
    rw [hrun] at hagain
    rw [(hagain.told hlater.sound).1, hanswer, hchronicle.inChannel_eq hlater hquiet]

namespace Service

/-- A server on a store in memory with one channel, and nobody there yet. -/
def lobby : Service MemoryStore where
  server := 7001
  world := { store := ⟨{ servers := [7001], channels := [⟨1, ⟨"foyer", by decide⟩, 7001⟩],
                         lastChannel := 1 }, []⟩ }

/-- A client joins, opens the channel, and says something in it before a tick. -/
def visiting : List Occurrence :=
  [.packet alice (requestPacket .join (⟨⟨"zoe", by decide⟩⟩ : JoinRequest)),
   .packet alice (requestPacket .openChannel (⟨1⟩ : OpenRequest)),
   .packet alice (requestPacket .say (⟨1, "one"⟩ : SayRequest)),
   .broadcast fun _ _ => true, .ask 0, .settle [true]]

theorem lobby_fresh : lobby.Fresh where
  orderly := ⟨Ascends.nil 0, (Ascends.nil 0).append _ (by decide), Ascends.nil 0⟩
  users := rfl
  messages := rfl
  presence := rfl
  queue := rfl
  asked := rfl

end Service

open Service in
/-- The client opens the channel once more, and is told what they have said. -/
theorem visitor_told_history :
    lobby.Fresh ∧ (∀ o ∈ visiting, o.isElsewhere = false) ∧
      ∃ answer, (lobby.run visiting).Loads 1
          (.packet alice (requestPacket .openChannel (⟨1⟩ : OpenRequest))) answer ∧
        decodeResponse (List MessageRow) answer =
          .ok (⟨.openChannel, .success⟩, [⟨1, 1, ⟨"zoe", by decide⟩, "one"⟩]) := by
  have hown : ∀ o ∈ visiting, o.isElsewhere = false := by
    simp [visiting, Occurrence.isElsewhere]
  have hlength : ∀ peer payload, Occurrence.packet peer payload ∈ visiting →
      payload.length < UInt32.size := by
    intro peer payload hmem
    simp only [visiting, List.mem_cons, Occurrence.packet.injEq, reduceCtorEq, List.not_mem_nil,
      or_false] at hmem
    rcases hmem with ⟨-, rfl⟩ | ⟨-, rfl⟩ | ⟨-, rfl⟩ <;> decide
  have hload : (lobby.run visiting).Loads 1
      (.packet alice (requestPacket .openChannel (⟨1⟩ : OpenRequest)))
      (responsePacket .openChannel .success
        ([⟨1, 1, ⟨"zoe", by decide⟩, "one"⟩] : List MessageRow)) :=
    ⟨alice, _, leBytes 4 1, _, rfl, rfl, rfl, by decide +kernel, rfl⟩
  have hjoined : collect joined lobby visiting = [(1, ⟨"zoe", by decide⟩)] := by
    decide +kernel
  have hsaid : collect said lobby visiting = [⟨1, 1, 1, "one"⟩] := by decide +kernel
  rcases (history_faithful lobby lobby_fresh visiting hown hlength hload).1 with
    ⟨names, hnames, -, hanswer⟩
  rw [hjoined] at hnames
  have halice : names 1 = ⟨"zoe", by decide⟩ := hnames _ List.mem_cons_self
  rw [hsaid] at hanswer
  refine ⟨lobby_fresh, hown, _, hload, hanswer.trans ?_⟩
  simp [Saying.row, halice]

end ChatHost
