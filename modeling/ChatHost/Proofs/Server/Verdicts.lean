import ChatHost.Proofs.Server.Isolation
import ChatHost.Proofs.Server.Sweeps
import ChatHost.Proofs.Store.Working
import ChatHost.Proofs.Wire.RoundTrip

/-!
# Verdicts

Which requests are answered, and which answers say yes.

A request is read in steps, and each of them can end it: the header, the handler, the
payload, the caller, the store. Whoever sent it sees none of this. They get an answer or
they do not, and an answer says success or it does not. Here a server has a store that
works, and both questions are settled for every packet at once, by its bytes, the records
of the store and the users who are tracked.

What is to be answered (`Answered`) and what is to be granted (`Granted`) is said for each
kind of request. Callers are looked up in two ways: whoever opens a channel must be
tracked, and whoever asks for their rights must be in the store. Most answers are granted.
In a store that works, there are two reasons to refuse one, a name of nothing but blanks
and an IP address that a user of the server has already, and none but those who join or
make a channel can have either.

Every handler decides by itself, so each has a lemma of its own that runs it on a store
that works. They are put together by `Handler.run_decides`, and what comes before and
after a handler, the header and the sign of life, is added once for all of them.

## Main definitions

* `Verdict`: An answer is given if it should be, and says what it should.
* `Answered`, `Granted`: What is to be answered, and what is to be granted.
* `Decides`: What a handler replies is as it should be.

## Theorems

* `Handler.run_decides`: Every handler answers and grants what it should.
* `dispatch_decides`: So does a server, whatever the packet.
* `dispatch_joins`, `dispatch_joins_not`: Who becomes a user of the server.
* `dispatch_creates`: What becomes a channel of the server.
* `who_is_answered`: All of it, in terms of bytes, records and tracked users.
-/

namespace ChatHost

open LawfulGateway

/-- The answer to a request, if it gets one, is as it should be: it gets one exactly if it
    is to be answered, under the kind of the request, and one that says success exactly if
    it is to be granted. -/
def Verdict (kind : RequestKind) (answered granted : Prop) : Option Bytes → Prop
  | none => ¬ answered
  | some answer => answered ∧ ∃ status payload,
      ResponseHeader.decode answer = (.ok ⟨kind, status⟩, payload) ∧
        (status = .success ↔ granted)

-- What says its kind and its status is read so.
theorem Verdict.of_response {kind : RequestKind} {answered granted : Prop} {status : Status}
    {α : Type} [Payload α] (payload : α) (hanswered : answered)
    (hgranted : status = .success ↔ granted) :
    Verdict kind answered granted (some (responsePacket kind status payload)) :=
  ⟨hanswered, status, Payload.encode payload,
    ResponseHeader.reads ⟨kind, status⟩ (Payload.encode payload), hgranted⟩

theorem Verdict.of_refusal {kind : RequestKind} {answered granted : Prop}
    (α : Type) [Payload α] (hanswered : answered) (hgranted : ¬ granted) :
    Verdict kind answered granted (some (refusalPacket α kind)) :=
  .of_response _ hanswered ⟨fun h => absurd h (by decide), fun h => absurd h hgranted⟩

section Reading

variable {body : Bytes}

theorem JoinRequest.value_iff {username : Name} :
    (Payload.decode : Decoder JoinRequest).value body = .ok ⟨username⟩ ↔ username.Leads body :=
  (Decoder.value_map_iff fun _ _ => JoinRequest.mk.inj).trans Decoder.name_value

theorem CreateRequest.value_iff {name : Name} :
    (Payload.decode : Decoder CreateRequest).value body = .ok ⟨name⟩ ↔ name.Leads body :=
  (Decoder.value_map_iff fun _ _ => CreateRequest.mk.inj).trans Decoder.name_value

theorem OpenRequest.value_iff {channel : ChannelId} :
    (Payload.decode : Decoder OpenRequest).value body = .ok ⟨channel⟩ ↔
      4 ≤ body.length ∧ UInt32.ofNat (leValue (body.take 4)) = channel :=
  (Decoder.value_map_iff fun _ _ => OpenRequest.mk.inj).trans Decoder.u32_value

end Reading

section Deciding

variable {σ : Type} [Gateway σ] [LawfulGateway σ]

/-- What is to be answered: a request for the channels, whoever makes it; one with a name, if
    the field of the name is whole and holds a text; one for rights, if the store has a user
    of the server with the IP address of the caller; and one for the messages of a channel,
    if the server has this channel and the caller is tracked. -/
def Answered (server : ServerId) (peer : SocketAddress) (w : World σ) (body : Bytes) :
    RequestKind → Prop
  | .serverInfo | .adminMenu => True
  | .join | .createChannel => Name.capacity ≤ body.length ∧
      ∃ text, Text.utf8Decode? (Decoder.beforeNul (body.take Name.capacity)) = some text
  | .membership => ∃ user ∈ (records w.store).users, user.server = server ∧ user.ip = peer.ip
  | .openChannel => 4 ≤ body.length ∧
      Hosts w.store server (UInt32.ofNat (leValue (body.take 4))) ∧
      ∃ user, w.live.presence.find? peer = some user
  | .say | .push | .heartbeat => False

/-- What is to be granted, if it is answered: everything but a name of blanks, and but a
    second user with one IP address. -/
def Granted (server : ServerId) (peer : SocketAddress) (w : World σ) (body : Bytes) :
    RequestKind → Prop
  | .join => ∃ username : Name, username.Leads body ∧ ¬ username.isBlank = true ∧
      ∀ user ∈ (records w.store).users, user.server = server → user.ip ≠ peer.ip
  | .createChannel => ∃ name : Name, name.Leads body ∧ ¬ name.isBlank = true
  | .serverInfo | .openChannel | .say | .membership | .adminMenu | .push | .heartbeat => True

variable {server : ServerId} {request : Request} {w : World σ}

/-- What a handler replies to a request is as it should be. -/
def Decides (server : ServerId) (request : Request) (w : World σ) (kind : RequestKind)
    (handled : Handled σ) : Prop :=
  Verdict kind (Answered server request.peer w request.payload kind)
    (Granted server request.peer w request.payload kind)
    (Dispatched.handled kind handled.1).answer?

theorem runJoin_decides (hs : Orderly w.store) (h : Works server w.store) :
    Decides server request w .join (Handler.runJoin server request w) := by
  rcases hdecode : (Payload.decode : Decoder JoinRequest).value request.payload with
    error | ⟨⟨username⟩⟩
  · simp only [Handler.runJoin, hdecode]
    intro hanswered
    rcases Name.exists_leads.mpr hanswered with ⟨username, hleads⟩
    rw [JoinRequest.value_iff.mpr hleads] at hdecode
    exact absurd hdecode (by simp)
  · have hleads := JoinRequest.value_iff.mp hdecode
    have hanswered := Name.exists_leads.mp ⟨username, hleads⟩
    by_cases hblank : username.isBlank = true
    · simp only [Handler.runJoin, hdecode, if_pos hblank]
      refine .of_refusal Unit hanswered ?_
      rintro ⟨username', hleads', hsome, -⟩
      rw [hleads.unique hleads'] at hsome
      exact hsome hblank
    · simp only [Handler.runJoin, hdecode, if_neg hblank]
      -- The store has ids left, so it takes whoever is new to the server, and nobody else.
      by_cases hfree : ∀ user ∈ (records w.store).users, user.server = server →
          user.ip ≠ request.peer.ip
      · rcases h.insertUser request.peer.ip username hfree with ⟨record, store, hinsert⟩
        simp only [hinsert]
        exact .of_response () hanswered ⟨fun _ => ⟨username, hleads, hblank, hfree⟩, fun _ => rfl⟩
      · rcases hinsert : Gateway.insertUser w.store server request.peer.ip username with
          ⟨fault | record, store⟩
        · refine .of_refusal Unit hanswered ?_
          rintro ⟨_, _, _, hfree'⟩
          exact hfree hfree'
        · exact absurd (insertUser_ok hs hinsert).2.2.1 hfree

theorem runChannelList_decides (hs : Orderly w.store) (h : Works server w.store)
    (handler : Handler) (hhandler : handler = .serverInfo ∨ handler = .adminMenu) :
    Decides server request w handler.kind (Handler.runChannelList handler.kind server w) := by
  have hchannels := h.responsive.selectChannels hs { server := some server }
  simp only [Handler.runChannelList, hchannels]
  rcases hhandler with rfl | rfl
  · exact .of_response _ trivial ⟨fun _ => trivial, fun _ => rfl⟩
  · exact .of_response _ trivial ⟨fun _ => trivial, fun _ => rfl⟩

-- Where queries are answered, it is known which channels are those of the server.
theorem ownsChannel_cases (hs : Orderly w.store) (h : Responsive w.store) (server : ServerId)
    (channel : ChannelId) :
    w.ownsChannel server channel = .ok true ∧ Hosts w.store server channel ∨
      w.ownsChannel server channel = .ok false ∧ ¬ Hosts w.store server channel := by
  have hchannels := h.selectChannels hs { id := some channel, server := some server }
  rcases howns : w.ownsChannel server channel with fault | _ | _
  · rw [World.ownsChannel, hchannels] at howns
    exact absurd howns (by simp [Except.map])
  · refine Or.inr ⟨rfl, ?_⟩
    rintro ⟨c, hc, hid, hserver⟩
    rw [World.ownsChannel, hchannels] at howns
    have hempty := Except.ok.inj howns
    rw [Bool.not_eq_false', List.isEmpty_iff, List.filter_eq_nil_iff] at hempty
    refine hempty c hc ?_
    simp only [ChannelFilter.admits, agrees, hid, hserver, decide_true, Bool.and_true]
  · exact Or.inl ⟨rfl, World.hosts_of_ownsChannel hs howns⟩

theorem runOpenChannel_decides (hs : Orderly w.store) (h : Works server w.store) :
    Decides server request w .openChannel (Handler.runOpenChannel server request w) := by
  rcases hdecode : (Payload.decode : Decoder OpenRequest).value request.payload with
    error | ⟨⟨channel⟩⟩
  · simp only [Handler.runOpenChannel, hdecode]
    rintro ⟨hlong, -⟩
    rw [OpenRequest.value_iff.mpr ⟨hlong, rfl⟩] at hdecode
    exact absurd hdecode (by simp)
  · rcases OpenRequest.value_iff.mp hdecode with ⟨hlong, hchannel⟩
    rcases ownsChannel_cases hs h.responsive server channel with
      ⟨howns, hhosts⟩ | ⟨howns, hforeign⟩
    · rcases hfound : w.live.presence.find? request.peer with _ | user
      · simp only [Handler.runOpenChannel, hdecode, howns, hfound]
        rintro ⟨-, -, user, huser⟩
        exact absurd (hfound.symm.trans huser) (by simp)
      · have hmessages := h.responsive.selectMessages hs { channel := some channel }
        rw [← hchannel] at hhosts
        simp only [Handler.runOpenChannel, hdecode, howns, hfound, World.setPresence, hmessages]
        exact .of_response _ ⟨hlong, hhosts, user, hfound⟩ ⟨fun _ => trivial, fun _ => rfl⟩
    · rw [← hchannel] at hforeign
      simp only [Handler.runOpenChannel, hdecode, howns]
      exact fun hanswered => hforeign hanswered.2.1

omit [LawfulGateway σ] in
-- Whatever becomes of what is said, there is no answer.
theorem runSay_silent (server : ServerId) (request : Request) (w : World σ) :
    (Dispatched.handled .say (Handler.runSay server request w).1).answer? = none := by
  simp only [Handler.runSay]
  split
  · rfl
  · split
    · rfl
    · split
      · rfl
      · split
        · rfl
        · rfl
        · split <;> rfl

theorem runMembership_decides (hs : Orderly w.store) (h : Works server w.store) :
    Decides server request w .membership (Handler.runMembership server request w) := by
  have husers := h.responsive.selectUsers hs { server := some server, ip := some request.peer.ip }
  have hmem : ∀ user, user ∈ (records w.store).users.filter
      (UserFilter.admits { server := some server, ip := some request.peer.ip }) ↔
        user ∈ (records w.store).users ∧ user.server = server ∧ user.ip = request.peer.ip := by
    intro user
    rw [List.mem_filter]
    simp only [UserFilter.admits, agrees, Bool.and_true, Bool.and_eq_true, decide_eq_true_eq]
    exact and_congr_right fun _ => and_congr eq_comm eq_comm
  rcases hfound : (records w.store).users.filter
    (UserFilter.admits { server := some server, ip := some request.peer.ip }) with _ | ⟨user, rest⟩
  · rw [hfound] at husers
    simp only [Handler.runMembership, husers]
    rintro ⟨user, huser, hsame⟩
    have hnone := (hmem user).mpr ⟨huser, hsame⟩
    rw [hfound] at hnone
    exact absurd hnone List.not_mem_nil
  · rw [hfound] at husers
    simp only [Handler.runMembership, husers]
    have huser := (hmem user).mp (hfound ▸ List.mem_cons_self)
    exact .of_response _ ⟨user, huser⟩ ⟨fun _ => trivial, fun _ => rfl⟩

theorem runCreateChannel_decides (h : Works server w.store) :
    Decides server request w .createChannel (Handler.runCreateChannel server request w) := by
  rcases hdecode : (Payload.decode : Decoder CreateRequest).value request.payload with
    error | ⟨⟨name⟩⟩
  · simp only [Handler.runCreateChannel, hdecode]
    intro hanswered
    rcases Name.exists_leads.mpr hanswered with ⟨name, hleads⟩
    rw [CreateRequest.value_iff.mpr hleads] at hdecode
    exact absurd hdecode (by simp)
  · have hleads := CreateRequest.value_iff.mp hdecode
    have hanswered := Name.exists_leads.mp ⟨name, hleads⟩
    by_cases hblank : name.isBlank = true
    · simp only [Handler.runCreateChannel, hdecode, if_pos hblank]
      refine .of_refusal Unit hanswered ?_
      rintro ⟨name', hleads', hsome⟩
      rw [hleads.unique hleads'] at hsome
      exact hsome hblank
    · simp only [Handler.runCreateChannel, hdecode, if_neg hblank]
      rcases h.insertChannel name with ⟨channel, store, hinsert⟩
      simp only [hinsert]
      exact .of_response () hanswered ⟨fun _ => ⟨name, hleads, hblank⟩, fun _ => rfl⟩

/-- A handler answers what it should, and grants what it should. -/
theorem Handler.run_decides (handler : Handler) (hs : Orderly w.store)
    (h : Works server w.store) (request : Request) :
    Decides server request w handler.kind (handler.run server request w) := by
  cases handler with
  | join => exact runJoin_decides hs h
  | serverInfo => exact runChannelList_decides hs h .serverInfo (Or.inl rfl)
  | openChannel => exact runOpenChannel_decides hs h
  | say =>
      rw [Decides, run, kind, runSay_silent]
      exact id
  | membership => exact runMembership_decides hs h
  | adminMenu => exact runChannelList_decides hs h .adminMenu (Or.inr rfl)
  | createChannel => exact runCreateChannel_decides h

-- A sign of life makes no difference to what is to be answered.
theorem answered_touch (w : World σ) (server : ServerId) (peer : SocketAddress) (now : Instant)
    (body : Bytes) (kind : RequestKind) :
    Answered server peer (w.touch peer now) body kind ↔ Answered server peer w body kind := by
  have hfound : (∃ user, (w.touch peer now).live.presence.find? peer = some user) ↔
      ∃ user, w.live.presence.find? peer = some user := by
    constructor
    · rintro ⟨user, huser⟩
      rcases World.touch_find? ⟨user, huser, rfl⟩ with ⟨before, hbefore, -⟩
      exact ⟨before, hbefore⟩
    · rintro ⟨user, huser⟩
      rcases World.find?_touch huser now with ⟨after, hafter, -⟩
      exact ⟨after, hafter⟩
  cases kind <;> simp only [Answered, World.touch_store, hfound]

theorem granted_touch (w : World σ) (server : ServerId) (peer : SocketAddress) (now : Instant)
    (body : Bytes) (kind : RequestKind) :
    Granted server peer (w.touch peer now) body kind ↔ Granted server peer w body kind := by
  cases kind <;> simp only [Granted, World.touch_store]

-- Clients may make every kind of request but two.
theorem Handler.exists_kind (kind : RequestKind) :
    (∃ handler : Handler, handler.kind = kind) ∨ kind = .push ∨ kind = .heartbeat := by
  cases kind with
  | join => exact Or.inl ⟨.join, rfl⟩
  | serverInfo => exact Or.inl ⟨.serverInfo, rfl⟩
  | openChannel => exact Or.inl ⟨.openChannel, rfl⟩
  | say => exact Or.inl ⟨.say, rfl⟩
  | membership => exact Or.inl ⟨.membership, rfl⟩
  | adminMenu => exact Or.inl ⟨.adminMenu, rfl⟩
  | createChannel => exact Or.inl ⟨.createChannel, rfl⟩
  | push => exact Or.inr (Or.inl rfl)
  | heartbeat => exact Or.inr (Or.inr rfl)

/-- Every packet that says what it is gets the verdict that it should. -/
theorem dispatch_decides (hs : Orderly w.store) (h : Works server w.store)
    (peer : SocketAddress) {packet body : Bytes} {kind : RequestKind}
    (hheader : RequestHeader.decode packet = (.ok ⟨kind⟩, body)) (now : Instant) :
    Verdict kind (Answered server peer w body kind) (Granted server peer w body kind)
      (dispatch .standard server peer packet now w).1.answer? := by
  rcases Handler.exists_kind kind with ⟨handler, rfl⟩ | rfl | rfl
  · rw [dispatch_handled server peer hheader, ← answered_touch w server peer now,
      ← granted_touch w server peer now]
    rw [← World.touch_store w peer now] at hs h
    exact handler.run_decides hs h { peer, payload := body, now }
  · rw [dispatch, hheader]
    exact id
  · rw [dispatch, hheader]
    exact id

omit [LawfulGateway σ] in
theorem dispatch_unreadable (server : ServerId) (peer : SocketAddress) {packet : Bytes}
    (hheader : ∀ kind body, RequestHeader.decode packet ≠ (.ok ⟨kind⟩, body)) (now : Instant)
    (w : World σ) : (dispatch .standard server peer packet now w).1.answer? = none := by
  rcases dispatch_cases server peer packet now w with ⟨hnone, -⟩ | ⟨handler, body, hheader'⟩
  · exact hnone
  · exact absurd hheader' (hheader _ _)

-- Whoever may join is behind no address yet.
theorem World.Sound.find?_none (hw : World.Sound server w) {peer : SocketAddress}
    (hfree : ∀ user ∈ (records w.store).users, user.server = server → user.ip ≠ peer.ip) :
    w.live.presence.find? peer = none := by
  rcases hfound : w.live.presence.find? peer with _ | found
  · rfl
  · rcases Tracker.find?_ip hw.presence.users hfound with ⟨hmem, hip⟩
    rcases hw.known _ (Tracker.mem_roster hmem) with ⟨user, huser, hserver, -, hsame⟩
    exact absurd (hsame.trans hip) (hfree user huser hserver)

/-- Whoever is granted to join is a member from then on, and tracked. -/
theorem dispatch_joins (hw : World.Sound server w) (h : Works server w.store)
    (peer : SocketAddress) {packet body : Bytes}
    (hheader : RequestHeader.decode packet = (.ok ⟨.join⟩, body))
    (hgranted : Granted server peer w body .join) (now : Instant) :
    ∃ (username : Name) (id : UserId), username.Leads body ∧
      (∀ user ∈ (records w.store).users, user.id ≠ id) ∧
      records (dispatch .standard server peer packet now w).2.store = { records w.store with
        users := (records w.store).users ++
          [{ id, server, username, ip := peer.ip, role := .member }] } ∧
      (dispatch .standard server peer packet now w).2.live = { w.live with
        presence := ⟨w.live.presence.users ++
          [{ id, username, ip := peer.ip, address := some peer, role := .member, online := false,
             channel := none, lastContact := now }]⟩ } := by
  rcases hgranted with ⟨username, hleads, hblank, hfree⟩
  rcases h.insertUser peer.ip username hfree with ⟨record, store, hinsert⟩
  rcases insertUser_ok hw.orderly hinsert with ⟨-, hrecord, -, hrecords⟩
  -- They are not known yet, so there is no sign of life to note.
  have htouch : w.touch peer now = w := by
    rw [World.touch, hw.find?_none hfree]
  have hkind : RequestHeader.decode packet = (.ok ⟨Handler.join.kind⟩, body) := hheader
  have hpresence : w.live.presence.join record peer now = ⟨w.live.presence.users ++
      [{ TrackedUser.ofRecord record now with address := some peer }]⟩ :=
    Tracker.insert_last _ (hw.lt_newcomer hinsert)
  have hdispatch : (dispatch .standard server peer packet now w).2 =
      World.setPresence { w with store := store } (w.live.presence.join record peer now) := by
    rw [dispatch_handled server peer hkind, htouch]
    simp only [Handler.run, Handler.runJoin, JoinRequest.value_iff.mpr hleads, if_neg hblank,
      hinsert, Handled.answer]
  refine ⟨username, record.id, hleads, ?_, ?_, ?_⟩
  · exact fun user huser => UInt32.ne_of_lt (lt_insertUser hw.orderly hinsert user huser)
  · rw [hdispatch]
    refine hrecords.trans ?_
    rw [hrecord]
  · rw [hdispatch, hpresence, hrecord]
    rfl

/-- Nobody else becomes a member, or is tracked. -/
theorem dispatch_joins_not (hw : World.Sound server w) (peer : SocketAddress) {packet : Bytes}
    (hnot : ∀ body, RequestHeader.decode packet = (.ok ⟨.join⟩, body) →
      ¬ Granted server peer w body .join) (now : Instant) :
    (records (dispatch .standard server peer packet now w).2.store).users =
        (records w.store).users ∧
      (dispatch .standard server peer packet now w).2.live.presence.roster =
        w.live.presence.roster := by
  rcases dispatch_cases server peer packet now w with ⟨-, hsame⟩ | ⟨handler, body, hheader⟩
  · rw [hsame]
    exact ⟨rfl, rfl⟩
  · have hcourse := handler.run_course server { peer, payload := body, now } (w.touch peer now)
    have horderly : Orderly (w.touch peer now).store := (w.touch_store peer now).symm ▸ hw.orderly
    rw [dispatch_handled server peer hheader]
    rcases hcourse.enrolls horderly with ⟨hroster, husers⟩ |
      ⟨username, record, store, rfl, hdecode, hinsert, hafter⟩
    · rw [World.touch_store] at husers
      exact ⟨husers, hroster.trans (w.roster_touch peer now)⟩
    · rcases insertUser_ok horderly hinsert with ⟨-, -, hfree, hrecords⟩
      rw [World.touch_store] at hfree
      -- A blank name has not reached the store.
      have hblank : ¬ username.isBlank = true := by
        intro hblank
        simp only [Handler.run, Handler.runJoin, hdecode, if_pos hblank, Handled.answer] at hafter
        have hlength := congrArg (fun v : World σ => (records v.store).users.length) hafter
        simp only [World.setPresence, hrecords, List.length_append, List.length_singleton]
          at hlength
        omega
      exact absurd ⟨username, JoinRequest.value_iff.mp hdecode, hblank, hfree⟩ (hnot body hheader)

/-- Whoever is granted a channel has added it to the server. -/
theorem dispatch_creates (hs : Orderly w.store) (h : Works server w.store)
    (peer : SocketAddress) {packet body : Bytes}
    (hheader : RequestHeader.decode packet = (.ok ⟨.createChannel⟩, body))
    (hgranted : Granted server peer w body .createChannel) (now : Instant) :
    ∃ (name : Name) (id : ChannelId), name.Leads body ∧
      (∀ channel ∈ (records w.store).channels, channel.id ≠ id) ∧
      records (dispatch .standard server peer packet now w).2.store = { records w.store with
        channels := (records w.store).channels ++ [{ id, name, server }] } ∧
      (dispatch .standard server peer packet now w).2.live = (w.touch peer now).live := by
  rcases hgranted with ⟨name, hleads, hblank⟩
  rcases h.insertChannel name with ⟨channel, store, hinsert⟩
  rcases insertChannel_ok hs hinsert with ⟨-, hchannel, hrecords⟩
  have hkind : RequestHeader.decode packet = (.ok ⟨Handler.createChannel.kind⟩, body) := hheader
  have hdispatch : (dispatch .standard server peer packet now w).2 =
      { w.touch peer now with store := store } := by
    rw [dispatch_handled server peer hkind]
    simp only [Handler.run, Handler.runCreateChannel, CreateRequest.value_iff.mpr hleads,
      if_neg hblank, World.touch_store, hinsert, Handled.answer]
  refine ⟨name, channel.id, hleads, ?_, ?_, ?_⟩
  · exact fun other hother => UInt32.ne_of_lt (lt_insertChannel hs hinsert other hother)
  · rw [hdispatch, hrecords, ← hchannel]
  · rw [hdispatch]

end Deciding

/-- Who is answered, and what success means. The server is registered in a store that
    works and has ids left, its presence is sound, and everybody who is tracked is in the
    store. Then a packet is answered exactly if its header can be read and it is to be
    answered, and the answer says what kind of request it is for, and that it was
    successful exactly if it was to be granted. Who is granted to join is a member from
    then on, and tracked, offline, at the address from which they came; neither the store
    nor the tracker gets another user in any other way. Who is granted a channel has added
    it to the server. -/
theorem who_is_answered {server : ServerId} {w : World (Breakable Backing)}
    (hw : World.Sound server w) (hready : Ready server w.store) (peer : SocketAddress)
    (packet : Bytes) (now : Instant) :
    let result := dispatch .standard server peer packet now w
    (result.1.answer?.isSome = true ↔ ∃ kind body,
      packet = RequestHeader.encode ⟨kind⟩ ++ body ∧ Answered server peer w body kind) ∧
    (∀ answer, result.1.answer? = some answer → ∃ kind body status payload,
      packet = RequestHeader.encode ⟨kind⟩ ++ body ∧
      ResponseHeader.decode answer = (.ok ⟨kind, status⟩, payload) ∧
      (status = .success ↔ Granted server peer w body kind)) ∧
    (∀ body, packet = RequestHeader.encode ⟨.join⟩ ++ body → Granted server peer w body .join →
      ∃ (username : Name) (id : UserId), username.Leads body ∧
        (∀ user ∈ (records w.store).users, user.id ≠ id) ∧
        records result.2.store = { records w.store with
          users := (records w.store).users ++
            [{ id, server, username, ip := peer.ip, role := .member }] } ∧
        result.2.live = { w.live with
          presence := ⟨w.live.presence.users ++
            [{ id, username, ip := peer.ip, address := some peer, role := .member,
               online := false, channel := none, lastContact := now }]⟩ }) ∧
    ((∀ body, packet = RequestHeader.encode ⟨.join⟩ ++ body →
        ¬ Granted server peer w body .join) →
      (records result.2.store).users = (records w.store).users ∧
        result.2.live.presence.roster = w.live.presence.roster) ∧
    (∀ body, packet = RequestHeader.encode ⟨.createChannel⟩ ++ body →
      Granted server peer w body .createChannel →
      ∃ (name : Name) (id : ChannelId), name.Leads body ∧
        (∀ channel ∈ (records w.store).channels, channel.id ≠ id) ∧
        records result.2.store = { records w.store with
          channels := (records w.store).channels ++ [{ id, name, server }] } ∧
        result.2.live = (w.touch peer now).live) := by
  intro result
  have hworks := hready.works hw.orderly
  simp only [← RequestHeader.decode_iff]
  have hverdict : ∀ {kind body}, RequestHeader.decode packet = (.ok ⟨kind⟩, body) →
      Verdict kind (Answered server peer w body kind) (Granted server peer w body kind)
        result.1.answer? := fun hheader => dispatch_decides hw.orderly hworks peer hheader now
  have hread : ∀ answer, result.1.answer? = some answer →
      ∃ kind body, RequestHeader.decode packet = (.ok ⟨kind⟩, body) := by
    intro answer hanswer
    by_contra hnone
    have hsilent := dispatch_unreadable server peer
      (fun kind body hheader => hnone ⟨kind, body, hheader⟩) now w
    exact absurd (hsilent.symm.trans hanswer) (by simp)
  refine ⟨⟨fun hsome => ?_, ?_⟩, fun answer hanswer => ?_, ?_, ?_, ?_⟩
  · rcases Option.isSome_iff_exists.mp hsome with ⟨answer, hanswer⟩
    rcases hread answer hanswer with ⟨kind, body, hheader⟩
    have hdecided := hverdict hheader
    rw [hanswer] at hdecided
    exact ⟨kind, body, hheader, hdecided.1⟩
  · rintro ⟨kind, body, hheader, hanswered⟩
    have hdecided := hverdict hheader
    rcases hanswer : result.1.answer? with _ | answer
    · rw [hanswer] at hdecided
      exact absurd hanswered hdecided
    · rfl
  · rcases hread answer hanswer with ⟨kind, body, hheader⟩
    have hdecided := hverdict hheader
    rw [hanswer] at hdecided
    rcases hdecided.2 with ⟨status, payload, hresponse, hstatus⟩
    exact ⟨kind, body, status, payload, hheader, hresponse, hstatus⟩
  · exact fun body hheader hgranted => dispatch_joins hw hworks peer hheader hgranted now
  · exact fun hnot => dispatch_joins_not hw peer hnot now
  · exact fun body hheader hgranted =>
      dispatch_creates hw.orderly hworks peer hheader hgranted now

/-- A server with one user, in the tables of a database. -/
def tavern : Backing :=
  StoreRequest.runAll (.tables .empty)
    [.insertServer 7001, .insertUser 7001 Service.alice.ip Service.aliceName]

/-- The server has just started. -/
def reopened : Service Backing :=
  { server := 7001
    world :=
      { store := ⟨tavern, []⟩
        live := .start [⟨1, 7001, Service.aliceName, Service.alice.ip, .member⟩] 5 } }

/-- Somebody else asks to join. What stands behind the end of their name is no text. -/
def mumbled : Bytes := [98, 111, 98, 0] ++ List.replicate 16 255

/-- They are told that they have joined, under the name that ends where the text does, and
    are tracked behind the user who was there. -/
theorem newcomer_granted :
    World.Sound 7001 reopened.world ∧ Ready 7001 reopened.world.store ∧
      let result := dispatch .standard 7001 Service.bob
        (RequestHeader.encode ⟨.join⟩ ++ mumbled) 8 reopened.world
      result.1.answer? = some (responsePacket .join .success ()) ∧
      (records result.2.store).users.map (·.username.text) = ["alice", "bob"] ∧
      result.2.live.presence.users.map (·.address) = [none, some Service.bob] := by
  have hfilled : tavern.Filled := Service.filled_runAll .tables _
  have hstarted : reopened.Started := by
    refine ⟨hfilled.orderly, rfl, rfl, Or.inr ⟨_, 5, ?_, ?_, rfl⟩⟩
    · decide +kernel
    · exact List.pairwise_singleton _ _
  have hsound : World.Sound 7001 reopened.world := hstarted.sound.world
  have hroom : tavern.query (fun _ => True) TableStore.Roomy :=
    ⟨by decide +kernel, by decide +kernel, by decide +kernel⟩
  have hready : Ready 7001 reopened.world.store :=
    { whole := rfl
      responsive := hfilled.responsive hroom
      registered := ⟨[7001], by decide +kernel, by decide⟩
      idsLeft := ⟨⟨by decide +kernel, by decide +kernel⟩, ⟨by decide +kernel, by decide +kernel⟩⟩ }
  have hleads : Name.Leads ⟨"bob", by decide⟩ mumbled := ⟨by decide, by decide +kernel⟩
  have hfree : ∀ user ∈ (records reopened.world.store).users, user.server = 7001 →
      user.ip ≠ Service.bob.ip := by
    decide +kernel
  have hgranted : Granted 7001 Service.bob reopened.world mumbled .join :=
    ⟨⟨"bob", by decide⟩, hleads, by decide +kernel, hfree⟩
  have hanswered := who_is_answered hsound hready Service.bob
    (RequestHeader.encode ⟨.join⟩ ++ mumbled) 8
  refine ⟨hsound, hready, by decide +kernel, ?_⟩
  rcases hanswered.2.2.1 mumbled rfl hgranted with ⟨username, id, hname, -, hrecords, hlive⟩
  have husers : (records reopened.world.store).users.map (·.username.text) = ["alice"] := by
    decide +kernel
  constructor
  · rw [hrecords, hleads.unique hname, List.map_append, husers]
    rfl
  · rw [hlive]
    rfl

end ChatHost
