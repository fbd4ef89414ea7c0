import ChatHost.Proofs.Server.PresenceInvariant

/-!
# Accepted Messages

No message that a server has taken in is lost, and none is pushed twice.

Taking in a message has two effects: the store gets it, and the queue gets a
copy made from the request and the receipt. The law is that the two agree at
every step, and since only a tick takes anything from the queue, that they agree
over every history: what ticks have taken, followed by what is still queued, is
what was queued at the start, followed by what has been stored since
(`run_conserves`).

That no message is pushed twice follows from ids. The store numbers messages in
ascending order, so a list of stored messages that keeps their order cannot
hold one of them at two places (`ascends_accepted`).

Other servers share the store. Their messages stand between those of this
server, and never in its queue; `run_stores` says so for both cases, with and
without them.

## Theorems

* `packet_adds`: A packet stores what it queues.
* `run_conserves`: Nothing is lost.
* `run_stores`: What becomes of the store.
* `ascends_accepted`: Accepted messages ascend.
* `accepted_exactly_once`: The law of accepted messages, over all histories.
-/

namespace ChatHost

open LawfulGateway

namespace Service

variable {σ : Type} [Gateway σ] [LawfulGateway σ] {s : Service σ}

-- Whatever comes to pass, the store only grows.
theorem step_grows (hs : Orderly s.world.store) (o : Occurrence) :
    Grows s.world.store (s.step o).world.store := by
  cases o with
  | wait ms => exact Grows.refl hs
  | packet peer payload => exact dispatch_grows s.server hs peer payload s.clock
  | broadcast accepts => exact Grows.refl hs
  | ask staleAfter => exact Grows.refl hs
  | settle alive => exact Grows.refl hs
  | grant username role => exact grows_updateRole hs s.server username role
  | elsewhere request => exact request.run_grows hs
  | outage broken => exact Grows.of_records_eq ⟨hs, rfl⟩

theorem run_grows (hs : Orderly s.world.store) (history : List Occurrence) :
    Grows s.world.store (s.run history).world.store := by
  induction history generalizing s with
  | nil => exact Grows.refl hs
  | cons o rest ih =>
      have hstep := step_grows hs o
      exact hstep.trans (ih hstep.orderly)

/-- What a packet adds to the store is what it adds to the queue. -/
theorem packet_adds (hs : Orderly s.world.store) (peer : SocketAddress) (payload : Bytes) :
    (s.step (.packet peer payload)).stored = s.stored ++ s.accepted (.packet peer payload) ∧
      (s.step (.packet peer payload)).queue = s.queue ++ s.accepted (.packet peer payload) ∧
      (s.accepted (.packet peer payload) ≠ [] →
        ∃ body, RequestHeader.decode payload = (.ok ⟨.say⟩, body)) := by
  rcases dispatch_adds s.server hs peer payload s.clock with
    ⟨added, hmessages, hqueue, hsay⟩
  have hstored : (s.step (.packet peer payload)).stored = s.stored ++ added := hmessages
  have haccepted : s.accepted (.packet peer payload) = added := by
    rw [accepted, hstored, List.drop_left]
  rw [haccepted]
  exact ⟨hstored, hqueue, hsay⟩

-- At every step the queue gives what is drained and takes what is accepted.
theorem step_conserves (hs : Orderly s.world.store) (o : Occurrence) :
    s.drained o ++ (s.step o).queue = s.queue ++ s.accepted o := by
  -- Steps that neither drain nor accept leave the queue alone.
  have hidle : [] ++ s.queue = s.queue ++ [] := by rw [List.nil_append, List.append_nil]
  cases o with
  | wait ms => exact hidle
  | packet peer payload => exact (packet_adds hs peer payload).2.1
  | broadcast accepts => rfl
  | ask staleAfter => exact hidle
  | settle alive => exact hidle
  | grant username role => exact hidle
  | elsewhere request => exact hidle
  | outage broken => exact hidle

/-- Nothing is lost: what has been drained, followed by what is queued, is what
    was queued, followed by what has been accepted. -/
theorem run_conserves (hs : Orderly s.world.store) (history : List Occurrence) :
    collect drained s history ++ (s.run history).queue =
      s.queue ++ collect accepted s history := by
  induction history generalizing s with
  | nil => rw [collect, collect, run_nil, List.nil_append, List.append_nil]
  | cons o rest ih =>
      rw [collect, collect, run_cons, List.append_assoc, ih (step_grows hs o).orderly,
        ← List.append_assoc, step_conserves hs o, List.append_assoc]

-- A step stores what is accepted, and what comes from elsewhere.
theorem step_stores (hs : Orderly s.world.store) (o : Occurrence) :
    ∃ new, (s.step o).stored = s.stored ++ new ∧ (s.accepted o).Sublist new ∧
      (o.isElsewhere = false → new = s.accepted o) := by
  have hidle : s.stored = s.stored ++ [] := (List.append_nil _).symm
  cases o with
  | wait ms => exact ⟨[], hidle, List.Sublist.refl _, fun _ => rfl⟩
  | packet peer payload =>
      have hstored := (packet_adds hs peer payload).1
      exact ⟨_, hstored, List.Sublist.refl _, fun _ => rfl⟩
  | broadcast accepts => exact ⟨[], hidle, List.Sublist.refl _, fun _ => rfl⟩
  | ask staleAfter => exact ⟨[], hidle, List.Sublist.refl _, fun _ => rfl⟩
  | settle alive => exact ⟨[], hidle, List.Sublist.refl _, fun _ => rfl⟩
  | grant username role =>
      have hsame := messages_updateRole hs s.server username role
      exact ⟨[], hsame.trans hidle, List.Sublist.refl _, fun _ => rfl⟩
  | elsewhere request =>
      rcases (request.run_grows hs).messages with ⟨new, hnew⟩
      have helse : (Occurrence.elsewhere request).isElsewhere = true := rfl
      refine ⟨new, hnew, List.nil_sublist _, fun hown => ?_⟩
      rw [helse] at hown
      exact absurd hown (by decide)
  | outage broken => exact ⟨[], hidle, List.Sublist.refl _, fun _ => rfl⟩

/-- What becomes of the store: accepted messages are added in order, and nothing
    else is unless it comes from elsewhere. -/
theorem run_stores (hs : Orderly s.world.store) (history : List Occurrence) :
    ∃ new, (s.run history).stored = s.stored ++ new ∧
      (collect accepted s history).Sublist new ∧
      ((∀ o ∈ history, o.isElsewhere = false) → new = collect accepted s history) := by
  induction history generalizing s with
  | nil => exact ⟨[], (List.append_nil _).symm, List.Sublist.refl _, fun _ => rfl⟩
  | cons o rest ih =>
      rcases step_stores hs o with ⟨new, hnew, hsub, hown⟩
      rcases ih (step_grows hs o).orderly with ⟨newer, hnewer, hsub', hown'⟩
      refine ⟨new ++ newer, ?_, hsub.append hsub', ?_⟩
      · rw [run_cons, hnewer, hnew, List.append_assoc]
      · intro helse
        rw [collect, hown (helse o List.mem_cons_self),
          hown' fun p hp => helse p (List.mem_cons_of_mem _ hp)]

-- What was stored at the start and what has been accepted since is stored.
theorem accepted_sublist_stored (hs : Orderly s.world.store) (history : List Occurrence) :
    (s.stored ++ collect accepted s history).Sublist (s.run history).stored := by
  rcases run_stores hs history with ⟨new, hnew, hsub, -⟩
  rw [hnew]
  exact (List.Sublist.refl _).append hsub

-- What is queued has been accepted, if the queue was empty at the start.
theorem queue_sublist_accepted (hs : Orderly s.world.store) (hqueue : s.queue = [])
    (history : List Occurrence) : (s.run history).queue.Sublist (collect accepted s history) := by
  have hconserves := run_conserves hs history
  rw [hqueue, List.nil_append] at hconserves
  rw [← hconserves]
  exact List.sublist_append_right _ _

/-- Stored messages ascend, and accepted ones among them. -/
theorem ascends_accepted (hs : Orderly s.world.store) (history : List Occurrence) :
    (s.stored ++ collect accepted s history).Pairwise fun m n => m.id < n.id := by
  have hascend : (s.run history).stored.Pairwise fun m n => m.id < n.id :=
    messages_ascend (run_grows hs history).orderly
  exact hascend.sublist (accepted_sublist_stored hs history)

-- What ascends has nothing in common with what comes before it.
theorem not_mem_of_ascends {first later : List Message}
    (h : (first ++ later).Pairwise fun m n => m.id < n.id) {m : Message} (hm : m ∈ first) :
    m ∉ later := by
  intro hlater
  have hlt := (List.pairwise_append.mp h).2.2 m hm m hlater
  exact UInt32.lt_irrefl _ hlt

/-- No accepted message is lost or pushed twice. What ticks have drained, followed
    by what is queued, is what packets have stored, in the same order, and its ids
    ascend; what a packet queues is what it stores, which is nothing unless it says
    something; and a message is drained by the first tick after it was accepted
    and by no other. -/
theorem accepted_exactly_once (s : Service Backing) (hstore : Orderly s.world.store)
    (hqueue : s.queue = []) (history : List Occurrence) :
    collect drained s history ++ (s.run history).queue = collect accepted s history ∧
    ((collect drained s history ++ (s.run history).queue).Pairwise fun m n => m.id < n.id) ∧
    ((∀ o ∈ history, o.isElsewhere = false) →
      (s.run history).stored = s.stored ++ collect accepted s history) ∧
    (∀ (before later : List Occurrence) (peer : SocketAddress) (payload : Bytes),
      history = before ++ .packet peer payload :: later →
      ((s.run before).step (.packet peer payload)).stored =
          (s.run before).stored ++ (s.run before).accepted (.packet peer payload) ∧
        ((s.run before).step (.packet peer payload)).queue =
          (s.run before).queue ++ (s.run before).accepted (.packet peer payload) ∧
        ((s.run before).accepted (.packet peer payload) ≠ [] →
          ∃ body, RequestHeader.decode payload = (.ok ⟨.say⟩, body))) ∧
    ∀ (before between later : List Occurrence) (peer : SocketAddress) (payload : Bytes)
      (accepts : Nat → SocketAddress → Bool),
      history = before ++ .packet peer payload :: between ++ .broadcast accepts :: later →
      (∀ o ∈ between, o.isBroadcast = false) →
      ∀ m ∈ (s.run before).accepted (.packet peer payload),
        m ∈ (s.run (before ++ .packet peer payload :: between)).drained (.broadcast accepts) ∧
        m ∉ collect drained s (before ++ .packet peer payload :: between) ∧
        m ∉ collect drained
          ((s.run (before ++ .packet peer payload :: between)).step (.broadcast accepts)) later := by
  have hconserves := run_conserves hstore history
  rw [hqueue, List.nil_append] at hconserves
  have hascends : (collect drained s history ++ (s.run history).queue).Pairwise
      fun m n => m.id < n.id := by
    rw [hconserves]
    exact (List.pairwise_append.mp (ascends_accepted hstore history)).2.1
  refine ⟨hconserves, hascends, ?_, ?_, ?_⟩
  · intro hown
    rcases run_stores hstore history with ⟨new, hnew, -, hall⟩
    rw [hnew, hall hown]
  · intro before later peer payload _
    exact packet_adds (run_grows hstore before).orderly peer payload
  · intro before between later peer payload accepts hhistory hquiet m hm
    have hbefore := (run_grows hstore before).orderly
    have hpacket := step_grows hbefore (.packet peer payload)
    -- Nothing is drained between packet and tick, so the message is still queued.
    have hwaiting := run_conserves hpacket.orderly between
    rw [collect_drained_nil _ _ hquiet, List.nil_append, (packet_adds hbefore peer payload).2.1]
      at hwaiting
    have hdrained : m ∈ (s.run (before ++ .packet peer payload :: between)).drained
        (.broadcast accepts) := by
      rw [run_append, run_cons, drained, hwaiting]
      exact List.mem_append_left _ (List.mem_append_right _ hm)
    -- All that was ever drained ascends, so what this tick drains no other does.
    rw [hhistory, collect_append, collect, List.append_assoc, List.append_assoc] at hascends
    refine ⟨hdrained, ?_, ?_⟩
    · intro hearly
      exact not_mem_of_ascends hascends hearly (List.mem_append_left _ hdrained)
    · intro hlate
      have hrest := (List.pairwise_append.mp hascends).2.1
      exact not_mem_of_ascends hrest hdrained (List.mem_append_left _ hlate)

/-- A client joins, makes a channel and opens it. -/
def opening : List Occurrence :=
  joining ++
    [.packet alice (requestPacket .createChannel (⟨⟨"hall", by decide⟩⟩ : CreateRequest)),
     .packet alice (requestPacket .openChannel (⟨1⟩ : OpenRequest))]

/-- A client says two things, the second after a tick. -/
def talking : List Occurrence :=
  opening ++
    [.packet alice (requestPacket .say (⟨1, "one"⟩ : SayRequest)), .broadcast fun _ _ => true,
     .packet alice (requestPacket .say (⟨1, "two"⟩ : SayRequest))]

theorem talking_exactly_once :
    Orderly (blank 7001).world.store ∧ (blank 7001).queue = [] ∧
      (collect drained (blank 7001) talking ++ ((blank 7001).run talking).queue).map (·.text) =
        ["one", "two"] := by
  have hstarted := blank_started 7001
  have honce := accepted_exactly_once (blank 7001) hstarted.orderly hstarted.queue talking
  refine ⟨hstarted.orderly, hstarted.queue, ?_⟩
  rw [honce.1]
  decide +kernel

end Service

end ChatHost
