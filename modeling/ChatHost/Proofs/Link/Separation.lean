import ChatHost.Proofs.Link.Arrival

/-!
# Keys Do Not Interfere

What is handed out for a key is a matter of the frames of that key alone.

Two reassemblers are compared: one that takes in everything, and one that takes in the
frames of one key and nothing else. What waits in them is not the same, not even under
that key. A fragment of any key makes a reassembler give up whatever has waited too long,
so a packet may be gone from the first and still be there in the second. But then it is
given up there as well before it can be looked at, because no fragment is looked at
without that. So what has to agree is what waits under the key and will not be given up
now (`Alike`), and since instants do not go backwards, it will not be given up later in
the one and kept in the other (`Alike.later`).

The bound on the packets that may wait is shared by all keys, and this is the one way in
which they can be in each other's way. So nothing can be said about a run in which a
fragment is turned away for it (`Refuses`).

## Main definitions

* `Reassembler.Refuses`, `Reassembler.Admits`: A fragment is turned away; none is.
* `Reassembler.under`: What waits under a key.
* `Reassembler.Alike`: What waits under a key is the same, up to what is given up.
* `Reassembler.Devoted`: Nothing waits under another key.

## Theorems

* `Reassembler.expire_expire`: Giving up what is given up later makes no difference.
* `Reassembler.accept_admitted`, `Reassembler.accept_immaterial`: What becomes of a frame.
* `Reassembler.Alike.other`, `Reassembler.Alike.same`: A frame of another key, and of this.
* `Reassembler.Alike.run`: All frames.
* `Reassembler.keys_do_not_interfere`: Over all runs from the beginning.
-/

namespace ChatHost

namespace Reassembler

/-- A fragment would begin a packet, and is turned away because too many wait. -/
structure Refuses (r : Reassembler) (d : Delivery) : Prop where
  fragment : d.frame.isFragment = true
  number : d.frame.fragment < d.frame.fragments
  new : (r.expire d.now).find? d.key = none
  full : maxPartials ≤ (r.expire d.now).pending

/-- No fragment is turned away when frames are taken in one after the other. -/
def Admits (r : Reassembler) : List Delivery → Prop
  | [] => True
  | d :: rest => ¬ r.Refuses d ∧ (r.accept d.peer d.frame d.now).2.Admits rest

/-- What waits under a key. -/
def under (r : Reassembler) (key : PartialKey) : List (PartialKey × Partial) :=
  r.partials.filter fun entry => decide (entry.1 = key)

section Under

variable (r : Reassembler) {key other : PartialKey}

theorem find?_eq_under (key : PartialKey) : r.find? key = (r.under key).head?.map (·.2) := by
  rw [find?, under, List.head?_filter]

theorem under_expire (key : PartialKey) (now : Instant) :
    (r.expire now).under key =
      (r.under key).filter fun entry => entry.2.isFresh r.timeout now := by
  rw [under, under, expire, List.filter_filter, List.filter_filter]
  exact List.filter_congr fun entry _ => Bool.and_comm _ _

-- What waits under a key afterwards depends on nothing else.
theorem under_expire_congr {r s : Reassembler} (htimeout : r.timeout = s.timeout)
    (h : r.under key = s.under key) (now : Instant) :
    (r.expire now).under key = (s.expire now).under key := by
  rw [under_expire, under_expire, h, htimeout]

theorem under_erase_self (key : PartialKey) : (r.erase key).under key = [] := by
  rw [under, erase, List.filter_filter, List.filter_eq_nil_iff]
  intro entry _
  simp

theorem under_erase_of_ne (h : other ≠ key) : (r.erase other).under key = r.under key := by
  rw [under, under, erase, List.filter_filter]
  refine List.filter_congr fun entry _ => ?_
  rw [Bool.and_eq_left_iff_imp, decide_eq_true_eq, decide_eq_true_eq]
  rintro rfl
  exact h.symm

theorem under_insert_self (key : PartialKey) (part : Partial) :
    (r.insert key part).under key = [(key, part)] := by
  have herased := under_erase_self r key
  rw [under] at herased
  rw [under, insert, List.filter_append, herased, List.filter_singleton, decide_eq_true rfl]
  rfl

theorem under_insert_of_ne (h : other ≠ key) (part : Partial) :
    (r.insert other part).under key = r.under key := by
  have herased := under_erase_of_ne r h
  rw [under] at herased
  rw [under, insert, List.filter_append, herased, List.filter_singleton, decide_eq_false h]
  exact List.append_nil _

/-- What is given up at an instant is given up at any later one. -/
theorem expire_expire {now later : Instant} (h : now ≤ later) :
    (r.expire now).expire later = r.expire later := by
  rw [expire, expire, expire, mk.injEq, List.filter_filter]
  refine ⟨rfl, List.filter_congr fun entry _ => ?_⟩
  simp only [Bool.and_eq_left_iff_imp, Partial.isFresh, decide_eq_true_eq]
  exact Nat.lt_of_le_of_lt (Nat.sub_le_sub_right h _)

end Under

section Frames

variable {r : Reassembler} {d : Delivery}

/-- What a fragment that is not turned away makes of the packet that waits under its key. -/
def grown (r : Reassembler) (d : Delivery) : Partial :=
  (target ((r.expire d.now).find? d.key) d.frame.fragments.toNat d.now).put
    d.frame.fragment.toNat d.frame.payload

/-- A fragment that is not turned away completes its packet, or waits in it. -/
theorem accept_admitted (hfragment : d.frame.isFragment = true)
    (hnumber : d.frame.fragment < d.frame.fragments) (hadmitted : ¬ r.Refuses d) :
    r.accept d.peer d.frame d.now =
      if (r.grown d).isWhole = true then
        (some (.whole d.frame.kind d.frame.correlation (r.grown d).payload),
          (r.expire d.now).erase d.key)
      else (none, (r.expire d.now).insert d.key (r.grown d)) := by
  have hfate := accept_fate r d
  generalize r.accept d.peer d.frame d.now = outcome at hfate
  cases hfate with
  | unsplit hwhole => exact absurd hfragment (Bool.eq_false_iff.mp hwhole)
  | numberless _ hnone => exact absurd hnumber (UInt16.not_lt.mpr hnone)
  | refused _ _ hnew hfull => exact absurd ⟨hfragment, hnumber, hnew, hfull⟩ hadmitted
  | kept _ _ _ hpart hwhole =>
      rw [grown, ← hpart, if_neg (Bool.eq_false_iff.mp hwhole)]
  | completed _ _ _ hpart hwhole =>
      rw [grown, ← hpart, if_pos hwhole]

/-- A frame that is no fragment, or has a number that there is not, leaves no trace, and it
    does not matter what waits. -/
theorem accept_immaterial
    (h : ¬ (d.frame.isFragment = true ∧ d.frame.fragment < d.frame.fragments)) :
    r.accept d.peer d.frame d.now = (if d.frame.isFragment then none else some d.frame, r) := by
  rw [accept]
  by_cases hfragment : d.frame.isFragment = true
  · have hnumber : d.frame.fragments ≤ d.frame.fragment :=
      UInt16.not_lt.mp fun hlt => h ⟨hfragment, hlt⟩
    rw [hfragment, if_pos hnumber]
    rfl
  · rw [eq_false_of_ne_true hfragment]
    rfl

theorem accept_timeout (r : Reassembler) (d : Delivery) :
    (r.accept d.peer d.frame d.now).2.timeout = r.timeout := by
  have hfate := accept_fate r d
  generalize r.accept d.peer d.frame d.now = outcome at hfate
  cases hfate with
  | unsplit | numberless | refused | kept | completed => rfl

/-- What waits under another key than that of a frame is not touched by it, up to what is
    given up. -/
theorem under_accept_of_ne {key : PartialKey} (h : d.key ≠ key) :
    ((r.accept d.peer d.frame d.now).2.expire d.now).under key = (r.expire d.now).under key := by
  have hagain : ((r.expire d.now).expire d.now).under key = (r.expire d.now).under key :=
    congrArg (under · key) (expire_expire r (Nat.le_refl d.now))
  have hfate := accept_fate r d
  generalize r.accept d.peer d.frame d.now = outcome at hfate
  cases hfate with
  | unsplit | numberless => rfl
  | refused => exact hagain
  | kept =>
      rw [← hagain]
      refine under_expire_congr ?_ ?_ d.now
      · rfl
      · exact under_insert_of_ne _ h _
  | completed =>
      rw [← hagain]
      refine under_expire_congr ?_ ?_ d.now
      · rfl
      · exact under_erase_of_ne _ h

end Frames

section Runs

variable {r s : Reassembler} {key : PartialKey} {now : Instant} {d : Delivery}

/-- What waits under a key is the same in two reassemblers, up to what they give up at an
    instant. -/
structure Alike (key : PartialKey) (now : Instant) (r s : Reassembler) : Prop where
  timeout : r.timeout = s.timeout
  under : (r.expire now).under key = (s.expire now).under key

/-- Nothing waits under another key. -/
def Devoted (r : Reassembler) (key : PartialKey) : Prop := ∀ entry ∈ r.partials, entry.1 = key

namespace Alike

-- What has been given up does not come back.
theorem later (h : Alike key now r s) {later : Instant} (hlater : now ≤ later) :
    Alike key later r s := by
  refine ⟨h.timeout, ?_⟩
  rw [← expire_expire r hlater, ← expire_expire s hlater]
  refine under_expire_congr ?_ h.under later
  exact h.timeout

theorem grown_eq (h : Alike d.key d.now r s) : r.grown d = s.grown d := by
  rw [grown, grown, find?_eq_under, find?_eq_under, h.under]

/-- A frame of another key makes no difference. -/
theorem other (h : Alike key d.now r s) (hkey : d.key ≠ key) :
    Alike key d.now (r.accept d.peer d.frame d.now).2 s :=
  ⟨(accept_timeout r d).trans h.timeout, (under_accept_of_ne hkey).trans h.under⟩

/-- A frame of the key is answered in the same way by both, and they stay alike. -/
theorem same (h : Alike d.key d.now r s) (hr : ¬ r.Refuses d) (hs : ¬ s.Refuses d) :
    (r.accept d.peer d.frame d.now).1 = (s.accept d.peer d.frame d.now).1 ∧
      Alike d.key d.now (r.accept d.peer d.frame d.now).2 (s.accept d.peer d.frame d.now).2 := by
  by_cases hpiece : d.frame.isFragment = true ∧ d.frame.fragment < d.frame.fragments
  · rw [accept_admitted hpiece.1 hpiece.2 hr, accept_admitted hpiece.1 hpiece.2 hs, h.grown_eq]
    split
    · refine ⟨rfl, h.timeout, under_expire_congr ?_ ?_ d.now⟩
      · exact h.timeout
      · rw [under_erase_self, under_erase_self]
    · refine ⟨rfl, h.timeout, under_expire_congr ?_ ?_ d.now⟩
      · exact h.timeout
      · rw [under_insert_self, under_insert_self]
  · rw [accept_immaterial hpiece, accept_immaterial hpiece]
    exact ⟨rfl, h⟩

end Alike

namespace Devoted

-- Where nothing waits under another key, a fragment that begins a packet is the first.
theorem not_refuses (h : s.Devoted d.key) : ¬ s.Refuses d := by
  intro hrefuses
  have hnone : (s.expire d.now).partials = [] := by
    have hnew := hrefuses.new
    rw [find?, Option.map_eq_none_iff, List.find?_eq_none] at hnew
    refine List.eq_nil_iff_forall_not_mem.mpr fun entry hentry => ?_
    exact hnew entry hentry (decide_eq_true (h entry (mem_of_mem_expire hentry)))
  have hfull := hrefuses.full
  rw [pending, hnone] at hfull
  exact absurd hfull (by decide)

theorem accept (h : s.Devoted d.key) : (s.accept d.peer d.frame d.now).2.Devoted d.key := by
  have hfate := accept_fate s d
  generalize s.accept d.peer d.frame d.now = outcome at hfate
  cases hfate with
  | unsplit | numberless => exact h
  | refused => exact fun entry hentry => h entry (mem_of_mem_expire hentry)
  | kept =>
      intro entry hentry
      rcases mem_of_mem_insert hentry with hentry | rfl
      · exact h entry (mem_of_mem_expire hentry)
      · rfl
  | completed => exact fun entry hentry => h entry (mem_of_mem_expire (mem_of_mem_erase hentry))

end Devoted

/-- All frames come to the one reassembler, and those of the key to the other. What is
    handed out for the key is the same. -/
theorem Alike.run {deliveries : List Delivery} (h : Alike key now r s) (hdevoted : s.Devoted key)
    (hstart : ∀ d ∈ deliveries, now ≤ d.now)
    (hascend : deliveries.Pairwise fun d e => d.now ≤ e.now) (hadmits : r.Admits deliveries) :
    (r.run deliveries).1.filter (fun outcome => decide (outcome.1.key = key)) =
      (s.run (deliveries.filter fun d => decide (d.key = key))).1 := by
  induction deliveries generalizing r s now with
  | nil => rfl
  | cons d rest ih =>
      have halike := h.later (hstart d List.mem_cons_self)
      rcases List.pairwise_cons.mp hascend with ⟨hafter, hascend⟩
      rw [run_cons, List.filter_cons, List.filter_cons]
      by_cases hkey : d.key = key
      · subst hkey
        rcases halike.same hadmits.1 hdevoted.not_refuses with ⟨hout, hnext⟩
        rw [if_pos (decide_eq_true rfl), if_pos (decide_eq_true rfl), run_cons, hout,
          ih hnext hdevoted.accept hafter hascend hadmits.2]
      · rw [if_neg (by simpa using hkey), if_neg (by simpa using hkey)]
        exact ih (halike.other hkey) hdevoted hafter hascend hadmits.2

/-- Frames of any kind come from any peers, at instants that do not go backwards, and none
    is turned away because too many packets wait. Then what is handed out for the frames of
    a key is what is handed out if they are the only ones that come, at the same instants. -/
theorem keys_do_not_interfere (timeout : Nat) (deliveries : List Delivery)
    (hascend : deliveries.Pairwise fun d e => d.now ≤ e.now)
    (hadmits : (⟨timeout, []⟩ : Reassembler).Admits deliveries) (key : PartialKey) :
    ((⟨timeout, []⟩ : Reassembler).run deliveries).1.filter
        (fun outcome => decide (outcome.1.key = key)) =
      ((⟨timeout, []⟩ : Reassembler).run (deliveries.filter fun d => decide (d.key = key))).1 := by
  have halike : Alike key 0 (⟨timeout, []⟩ : Reassembler) ⟨timeout, []⟩ := ⟨rfl, rfl⟩
  exact halike.run (fun _ hentry => absurd hentry List.not_mem_nil) (fun d _ => Nat.zero_le d.now)
    hascend hadmits

end Runs

end Reassembler

/-- A short piece of a packet in two pieces. -/
def shortPiece (port : UInt16) (fragment : UInt16) (now : Instant) : Delivery :=
  ⟨⟨.v4 ⟨10, 0, 0, 2⟩, port, 0⟩, ⟨.response, 4, fragment, 2, [fragment.toUInt8]⟩, now⟩

/-- The first piece of one packet waits too long, and it is a piece of another packet by
    which it is given up. Then both pieces come again. -/
def sweptArrivals : List Delivery :=
  [shortPiece 4001 0 0, shortPiece 4002 0 6000, shortPiece 4001 1 6001, shortPiece 4001 0 6002]

theorem swept_arrivals_kept_apart :
    ((⟨5000, []⟩ : Reassembler).run sweptArrivals).1.filter
        (fun outcome => decide (outcome.1.key = (shortPiece 4001 0 0).key)) =
      [(shortPiece 4001 0 0, none), (shortPiece 4001 1 6001, none),
        (shortPiece 4001 0 6002, some (.whole .response 4 [0, 1]))] := by
  have hascend : sweptArrivals.Pairwise fun d e => d.now ≤ e.now := by decide
  have hadmits : (⟨5000, []⟩ : Reassembler).Admits sweptArrivals :=
    ⟨fun h => absurd h.full (by decide), fun h => absurd h.full (by decide),
      fun h => absurd h.full (by decide), fun h => absurd h.full (by decide), trivial⟩
  exact Reassembler.keys_do_not_interfere 5000 sweptArrivals hascend hadmits _

end ChatHost
