import ChatHost.Proofs.Link.Separation

/-!
# The Books of a Reassembler

What is true of the packets that wait, whatever frames come and whenever they come.

Nothing is assumed of the frames here. Nobody need have sent them, their numbers need not be
those of pieces of anything, and the clock may go backwards. What stays true all the same is
what is kept about the packets that wait: how many there are, and of each how many of its
slots are filled (`Reassembler.InOrder`). The count of a packet is right because it is
raised when a slot is filled, and not when a piece comes (`Partial.received_put`).

A piece has a slot in the packet that it is put into (`Reassembler.Takes`). It has been
compared with the number of pieces that its own frame gives, and not with the number of
slots that a packet has. But a packet with another number of slots is given up before, so
it does not matter what has waited under the key.

## Main definitions

* `Partial.Waiting`: Some slots of a packet are filled, and some are not.
* `Reassembler.InOrder`: Not too many packets wait, and each waits for something.
* `Reassembler.settle`: What becomes of a packet with one piece more.
* `Reassembler.Takes`: A piece is put into its slot.

## Theorems

* `Partial.waiting_of_put`: A packet with one piece more waits if it is not whole.
* `Reassembler.takes_of_admitted`: A fragment that is not turned away has a slot.
* `Reassembler.InOrder.accept`, `Reassembler.InOrder.run`: One frame, and all frames.
* `Reassembler.not_refuses_of_find?`: A packet that waits goes on.
* `Reassembler.books_in_order`: Over all runs from the beginning.
-/

namespace ChatHost

namespace Partial

variable {part : Partial}

/-- Some of at least two slots are filled, some are not, and those that are filled have been
    counted. -/
structure Waiting (part : Partial) : Prop where
  split : 2 ≤ part.slots.length
  counted : part.received = part.slots.countP Option.isSome
  begun : 1 ≤ part.received
  missing : part.received < part.slots.length

/-- A packet waits with a piece that has been put into its slot, if it is not whole. -/
theorem waiting_of_put (hsplit : 2 ≤ part.slots.length)
    (hcounted : part.received = part.slots.countP Option.isSome) {index : Nat}
    (hindex : index < part.slots.length) {piece : Bytes}
    (hwhole : (part.put index piece).isWhole = false) : (part.put index piece).Waiting := by
  have hcount := received_put hcounted index piece
  have hlength := length_put part index piece
  refine ⟨by rwa [hlength], hcount, ?_, ?_⟩
  · rcases (filled_put part hindex piece index).mpr (Or.inl rfl) with ⟨there, hslot⟩
    rw [hcount]
    exact List.countP_pos_iff.mpr ⟨some there, List.mem_of_getElem? hslot, rfl⟩
  · have hle : (part.put index piece).received ≤ (part.put index piece).slots.length := by
      rw [hcount]
      exact List.countP_le_length
    rw [isWhole, beq_eq_false_iff_ne] at hwhole
    exact Nat.lt_of_le_of_ne hle hwhole

end Partial

namespace Reassembler

section Counting

variable {r : Reassembler} {key : PartialKey}

/-- Not too many packets wait, no two under one key, and each of them waits for something. -/
structure InOrder (r : Reassembler) : Prop where
  few : r.pending ≤ maxPartials
  nodup : (r.partials.map Prod.fst).Nodup
  waiting : ∀ entry ∈ r.partials, entry.2.Waiting

theorem pending_erase_lt (h : r.find? key ≠ none) : (r.erase key).pending < r.pending := by
  rcases Option.ne_none_iff_exists'.mp h with ⟨part, hfind⟩
  rw [pending, pending, erase, List.length_filter_lt_length_iff_exists]
  exact ⟨(key, part), mem_of_find? hfind, by simp⟩

theorem pending_erase_le (r : Reassembler) (key : PartialKey) :
    (r.erase key).pending ≤ r.pending :=
  List.length_filter_le _ _

/-- There is room for a packet if it has waited before, or if there was room for one more. -/
theorem pending_insert_le (hfew : r.pending ≤ maxPartials)
    (hroom : r.find? key = none → r.pending < maxPartials) (part : Partial) :
    (r.insert key part).pending ≤ maxPartials := by
  have hinsert : (r.insert key part).pending = (r.erase key).pending + 1 := by
    rw [insert, pending, List.length_append, List.length_singleton]
    rfl
  rw [hinsert, Nat.succ_le_iff]
  by_cases hfind : r.find? key = none
  · exact Nat.lt_of_le_of_lt (pending_erase_le r key) (hroom hfind)
  · exact Nat.lt_of_lt_of_le (pending_erase_lt hfind) hfew

namespace InOrder

theorem expire (h : r.InOrder) (now : Instant) : (r.expire now).InOrder where
  few := Nat.le_trans (List.length_filter_le _ _) h.few
  nodup := (List.filter_sublist.map Prod.fst).nodup h.nodup
  waiting entry hentry := h.waiting entry (mem_of_mem_expire hentry)

theorem erase (h : r.InOrder) (key : PartialKey) : (r.erase key).InOrder where
  few := Nat.le_trans (pending_erase_le r key) h.few
  nodup := (List.filter_sublist.map Prod.fst).nodup h.nodup
  waiting entry hentry := h.waiting entry (mem_of_mem_erase hentry)

theorem insert (h : r.InOrder) (hroom : r.find? key = none → r.pending < maxPartials)
    {part : Partial} (hpart : part.Waiting) : (r.insert key part).InOrder where
  few := pending_insert_le h.few hroom part
  nodup := by
    rw [Reassembler.insert, List.map_append, List.nodup_append]
    refine ⟨(h.erase key).nodup, List.nodup_singleton key, fun other hother same hsame => ?_⟩
    rcases List.mem_map.mp hother with ⟨entry, hentry, rfl⟩
    rw [List.mem_singleton.mp hsame]
    exact of_decide_eq_true (List.mem_filter.mp hentry).2
  waiting entry hentry := by
    rcases mem_of_mem_insert hentry with hentry | rfl
    · exact h.waiting entry hentry
    · exact hpart

end InOrder

end Counting

section Slots

variable {r : Reassembler} {d : Delivery}

/-- What becomes of a packet that a frame has been put into. -/
def settle (r : Reassembler) (d : Delivery) (part : Partial) : Option Frame × Reassembler :=
  if part.isWhole = true then
    (some (.whole d.frame.kind d.frame.correlation part.payload), (r.expire d.now).erase d.key)
  else (none, (r.expire d.now).insert d.key part)

/-- A frame is put into a packet, which waits under its key or is a new one. The packet has as
    many slots as the frame says, and one of them is for this piece. -/
structure Takes (r : Reassembler) (d : Delivery) (part : Partial) : Prop where
  origin : (r.expire d.now).find? d.key = some part ∨
    part = .fresh d.frame.fragments.toNat d.now
  count : part.slots.length = d.frame.fragments.toNat
  slot : d.frame.fragment.toNat < part.slots.length
  outcome : r.accept d.peer d.frame d.now =
    r.settle d (part.put d.frame.fragment.toNat d.frame.payload)

/-- The packet that a piece goes into has as many slots as the frame of the piece says, and if
    that is another number than before, it is a new one. -/
theorem target_cases (old : Option Partial) (count : Nat) (now : Instant) :
    (old = some (target old count now) ∨ target old count now = .fresh count now) ∧
      (target old count now).slots.length = count := by
  rcases old with _ | part
  · exact ⟨Or.inr rfl, List.length_replicate⟩
  · rw [target]
    split
    · next hsame => exact ⟨Or.inl rfl, hsame⟩
    · exact ⟨Or.inr rfl, List.length_replicate⟩

theorem takes_of_admitted (hfragment : d.frame.isFragment = true)
    (hnumber : d.frame.fragment < d.frame.fragments) (hadmitted : ¬ r.Refuses d) :
    ∃ part, r.Takes d part := by
  rcases target_cases ((r.expire d.now).find? d.key) d.frame.fragments.toNat d.now with
    ⟨horigin, hcount⟩
  refine ⟨_, horigin, hcount, ?_, accept_admitted hfragment hnumber hadmitted⟩
  rw [hcount]
  exact UInt16.lt_iff_toNat_lt.mp hnumber

/-- A packet that waits and is not given up is not turned away. -/
theorem not_refuses_of_find? {part : Partial} (hfind : r.find? d.key = some part)
    (hfresh : part.isFresh r.timeout d.now = true) : ¬ r.Refuses d := by
  intro hrefuses
  have hnew := hrefuses.new
  rw [find?_expire_of_some hfind hfresh] at hnew
  simp at hnew

/-- What is handed out, and what waits then, if a fragment is turned away. -/
theorem Refuses.accept_eq (h : r.Refuses d) :
    r.accept d.peer d.frame d.now = (none, r.expire d.now) := by
  have hfate := accept_fate r d
  generalize r.accept d.peer d.frame d.now = outcome at hfate
  cases hfate with
  | unsplit hwhole => exact absurd h.fragment (Bool.eq_false_iff.mp hwhole)
  | numberless _ hnone => exact absurd h.number (UInt16.not_lt.mpr hnone)
  | refused => rfl
  | kept _ _ hroom => exact absurd (hroom h.new) (Nat.not_lt.mpr h.full)
  | completed _ _ hroom => exact absurd (hroom h.new) (Nat.not_lt.mpr h.full)

end Slots

section Runs

variable {r : Reassembler}

/-- What comes of any frame: it is put into its slot, or it is turned away, or it is no
    fragment with a number that there is. -/
theorem accept_cases (r : Reassembler) (d : Delivery) :
    (∃ part, r.Takes d part) ∨
    (r.Refuses d ∧ r.accept d.peer d.frame d.now = (none, r.expire d.now)) ∨
    (¬ (d.frame.isFragment = true ∧ d.frame.fragment < d.frame.fragments) ∧
      r.accept d.peer d.frame d.now =
        (if d.frame.isFragment then none else some d.frame, r)) := by
  by_cases hpiece : d.frame.isFragment = true ∧ d.frame.fragment < d.frame.fragments
  · by_cases hrefuses : r.Refuses d
    · exact Or.inr (Or.inl ⟨hrefuses, hrefuses.accept_eq⟩)
    · exact Or.inl (takes_of_admitted hpiece.1 hpiece.2 hrefuses)
  · exact Or.inr (Or.inr ⟨hpiece, accept_immaterial hpiece⟩)

namespace InOrder

-- The packet that a piece goes into has been counted, whether it waits or is a new one.
theorem received_target (h : r.InOrder) (key : PartialKey) (count : Nat) (now : Instant) :
    (target (r.find? key) count now).received =
      (target (r.find? key) count now).slots.countP Option.isSome := by
  rcases (target_cases (r.find? key) count now).1 with hold | hfresh
  · exact (h.waiting _ (mem_of_find? hold)).counted
  · rw [hfresh]
    exact Partial.received_fresh count now

/-- One frame leaves the books in order. -/
theorem accept (h : r.InOrder) (d : Delivery) :
    (r.accept d.peer d.frame d.now).2.InOrder := by
  have hexpire := h.expire d.now
  have hfate := accept_fate r d
  generalize r.accept d.peer d.frame d.now = outcome at hfate
  cases hfate with
  | unsplit | numberless => exact h
  | refused => exact hexpire
  | completed => exact hexpire.erase d.key
  | kept hfragment hnumber hroom hpart hwhole =>
      rw [hpart] at hwhole ⊢
      have hcount := (target_cases ((r.expire d.now).find? d.key) d.frame.fragments.toNat
        d.now).2
      have htwo := UInt16.lt_iff_toNat_lt.mp (of_decide_eq_true hfragment)
      refine hexpire.insert hroom (Partial.waiting_of_put ?_ ?_ ?_ hwhole)
      · rw [hcount]
        exact htwo
      · exact hexpire.received_target d.key _ d.now
      · rw [hcount]
        exact UInt16.lt_iff_toNat_lt.mp hnumber

/-- All frames leave them in order. -/
theorem run (h : r.InOrder) (deliveries : List Delivery) : (r.run deliveries).2.InOrder := by
  induction deliveries generalizing r with
  | nil => exact h
  | cons d rest ih => exact ih (h.accept d)

end InOrder

theorem run_timeout (r : Reassembler) (deliveries : List Delivery) :
    (r.run deliveries).2.timeout = r.timeout := by
  induction deliveries generalizing r with
  | nil => rfl
  | cons d rest ih => exact (ih _).trans (accept_timeout r d)

/-- Any frames come from any peers, at any instants. At every moment at most 256 packets wait,
    no two under one key. Each of them has at least two slots, and the number of those that
    are filled is what is counted, at least one and not all. Of the next frame, whichever it
    is, one of three things comes: it is put into a slot that is there, in a packet that
    waits or in a new one with as many slots as it says; or it is turned away; or it is no
    fragment with a number that there is, and nothing changes. And it is not turned away if
    a packet waits under its key that is not given up. -/
theorem books_in_order (timeout : Nat) (deliveries : List Delivery) (r : Reassembler)
    (hr : ((⟨timeout, []⟩ : Reassembler).run deliveries).2 = r) :
    r.pending ≤ 256 ∧ (r.partials.map Prod.fst).Nodup ∧
    (∀ entry ∈ r.partials, 2 ≤ entry.2.slots.length ∧
      entry.2.received = entry.2.slots.countP Option.isSome ∧
      1 ≤ entry.2.received ∧ entry.2.received < entry.2.slots.length) ∧
    (∀ d : Delivery,
      (∃ part, r.Takes d part) ∨
      (r.Refuses d ∧ r.accept d.peer d.frame d.now = (none, r.expire d.now)) ∨
      (¬ (d.frame.isFragment = true ∧ d.frame.fragment < d.frame.fragments) ∧
        r.accept d.peer d.frame d.now =
          (if d.frame.isFragment then none else some d.frame, r))) ∧
    ∀ (d : Delivery) (part : Partial), r.find? d.key = some part →
      part.isFresh timeout d.now = true → ¬ r.Refuses d := by
  have hempty : (⟨timeout, []⟩ : Reassembler).InOrder :=
    ⟨Nat.zero_le _, List.nodup_nil, fun _ hentry => absurd hentry List.not_mem_nil⟩
  have horder := hempty.run deliveries
  have htimeout : r.timeout = timeout := hr ▸ run_timeout ⟨timeout, []⟩ deliveries
  rw [hr] at horder
  refine ⟨horder.few, horder.nodup, fun entry hentry => ?_, accept_cases r,
    fun d part hfind hfresh => ?_⟩
  · have hwaiting := horder.waiting entry hentry
    exact ⟨hwaiting.split, hwaiting.counted, hwaiting.begun, hwaiting.missing⟩
  · rw [← htimeout] at hfresh
    exact not_refuses_of_find? hfind hfresh

end Runs

end Reassembler

/-- The last piece of three, where a packet of two waits under the same key. -/
def recounted : Delivery :=
  ⟨⟨.v4 ⟨10, 0, 0, 2⟩, 4001, 0⟩, ⟨.response, 4, 2, 3, [7]⟩, 10⟩

/-- The packet of two is not given up by the clock, and so the piece is not turned away. It
    has its slot, in a new packet. -/
theorem recounted_has_slot :
    ∃ part, ((⟨5000, []⟩ : Reassembler).run [shortPiece 4001 0 0]).2.Takes recounted part ∧
      part.slots.length = 3 := by
  rcases Reassembler.books_in_order 5000 [shortPiece 4001 0 0] _ rfl with
    ⟨-, -, -, hcases, hgoes⟩
  have hadmitted := hgoes recounted ⟨[some [0], none], 1, 0⟩ rfl rfl
  rcases hcases recounted with ⟨part, htakes⟩ | ⟨hrefuses, -⟩ | ⟨hpiece, -⟩
  · exact ⟨part, htakes, htakes.count⟩
  · exact absurd hrefuses hadmitted
  · exact absurd ⟨rfl, by decide⟩ hpiece

end ChatHost
