import ChatHost.Address.Parser
import ChatHost.Address.Printer
import Mathlib.Data.List.Basic
import Mathlib.Data.List.TakeWhile
import Mathlib.Tactic.IntervalCases

/-!
# Addresses are Read Back

The printer writes one spelling of an address; the parser takes many. What ties
them together is that the spelling which is written is one of those that are
taken, and is taken as the address it was written for. A store that keeps
addresses as texts depends on it twice: what it wrote it can read, and two
addresses are equal exactly if their texts are.

The proof follows the parser. Every reader is greedy, so each lemma says what a
reader makes of the characters of a value *with something behind them*, and
names the condition on what comes behind: a number ends where no digit of its
radix follows (`endsNumber`), a run of groups at the end of the text or at two
colons (`endsGroups`).

Two readers are tried before others that could take the same text. A group of an
IPv6 address is tried as an IPv4 address first, and so is the address as a whole.
`readIpv4_of_no_point` rules that out for every text without a point, which
leaves the one spelling that has points, that of an address which maps an IPv4
address; it is treated on its own in `readIpv6_mapped`.

Nothing is said about which run of zeros is left out. The longest one is, but
reading back only needs that it is a run of zeros and not a single one, since
two colons never stand for fewer groups than were left out.

## Main definitions

* `endsNumber`, `endsGroups`: Where readers stop.
* `octetChars`, `groupsChars`: Spellings as lists of characters.

## Theorems

* `readNumber_toDigits`: A number is read back from its digits.
* `readIpv4_octetChars`: An IPv4 address is read back.
* `longestZeros_split`: The longest run of zeros is a run of zeros.
* `readIpv6_ipv6Text`: An IPv6 address is read back.
* `Ip.parse?_toText`: An address is read back from its canonical spelling.
* `Ip.toText_injective`: No two addresses have one canonical spelling.
-/

namespace ChatHost

namespace Address

-- A digit stands for what it was written for.
theorem digitValue?_digitChar (radix d : Nat) (hd : d < radix) (hr : radix ≤ 16) :
    digitValue? radix (Nat.digitChar d) = some d := by
  have h16 : d < 16 := by omega
  interval_cases d <;> simp [digitValue?, Nat.digitChar] <;> omega

-- The digits of a number are digits of its radix.
theorem toDigits_isDigitOf (radix : Nat) (h1 : 1 < radix) (hr : radix ≤ 16) (n : Nat) :
    ∀ c ∈ Nat.toDigits radix n, isDigitOf radix c = true := by
  induction n using Nat.strong_induction_on with
  | _ n ih =>
      intro c hc
      rw [Nat.toDigits_eq_if h1] at hc
      by_cases hn : n < radix
      · rw [if_pos hn, List.mem_singleton] at hc
        rw [hc, isDigitOf, digitValue?_digitChar radix n hn hr, Option.isSome_some]
      · -- The last digit is the remainder; those before it spell the quotient.
        rw [if_neg hn, List.mem_append, List.mem_singleton] at hc
        rcases hc with hc | hc
        · exact ih (n / radix) (Nat.div_lt_self (by omega) h1) c hc
        · rw [hc, isDigitOf, digitValue?_digitChar radix _ (Nat.mod_lt _ (by omega)) hr,
            Option.isSome_some]

-- The digits of a number spell that number.
theorem numberOf_toDigits (radix : Nat) (h1 : 1 < radix) (hr : radix ≤ 16) (n : Nat) :
    numberOf radix (Nat.toDigits radix n) = n := by
  induction n using Nat.strong_induction_on with
  | _ n ih =>
      rw [Nat.toDigits_eq_if h1]
      by_cases hn : n < radix
      · rw [if_pos hn]
        simp only [numberOf, List.foldl_cons, List.foldl_nil, digitValue?_digitChar radix n hn hr,
          Option.getD_some, Nat.zero_mul, Nat.zero_add]
      · have hq := ih (n / radix) (Nat.div_lt_self (by omega) h1)
        rw [if_neg hn]
        simp only [numberOf, List.foldl_append, List.foldl_cons, List.foldl_nil,
          digitValue?_digitChar radix _ (Nat.mod_lt n (by omega : 0 < radix)) hr,
          Option.getD_some] at hq ⊢
        rw [hq, Nat.mul_comm]
        exact Nat.div_add_mod n radix

-- A number other than zero is written without leading zeros.
theorem head?_toDigits_ne_zero (radix : Nat) (h1 : 1 < radix) (hr : radix ≤ 16) (n : Nat)
    (hn : 0 < n) : (Nat.toDigits radix n).head? ≠ some '0' := by
  induction n using Nat.strong_induction_on with
  | _ n ih =>
      rw [Nat.toDigits_eq_if h1]
      by_cases hlt : n < radix
      · rw [if_pos hlt]
        have h16 : n < 16 := by omega
        interval_cases n <;> decide
      · -- The first digit is that of the quotient, which is not zero either.
        rw [if_neg hlt, List.head?_append_of_ne_nil _ Nat.toDigits_ne_nil]
        exact ih (n / radix) (Nat.div_lt_self hn h1) (Nat.div_pos (by omega) (by omega))

theorem takeWhile_append_stop {α : Type} (p : α → Bool) (taken rest : List α)
    (htaken : ∀ a ∈ taken, p a = true) (hrest : ∀ a ∈ rest.head?, p a = false) :
    (taken ++ rest).takeWhile p = taken := by
  rw [List.takeWhile_append_of_pos htaken]
  cases rest with
  | nil => simp
  | cons a rest =>
      rw [List.takeWhile_cons_of_neg, List.append_nil]
      simp [hrest a rfl]

/-- A number is read back from its digits, as long as no digit follows them and
    none of the restrictions of the reader forbids it. -/
theorem readNumber_toDigits (radix : Nat) (most : Option Nat) (zeros : Bool) (bound n : Nat)
    (rest : List Char) (h1 : 1 < radix) (hr : radix ≤ 16) (hn : n ≤ bound)
    (hmost : ∀ k ∈ most, (Nat.toDigits radix n).length ≤ k)
    (hrest : ∀ c ∈ rest.head?, isDigitOf radix c = false) :
    readNumber radix most zeros bound (Nat.toDigits radix n ++ rest) = some (n, rest) := by
  have hdigits := takeWhile_append_stop (isDigitOf radix) _ rest
    (toDigits_isDigitOf radix h1 hr n) hrest
  -- The reader refuses four things, and the digits of `n` are none of them: no
  -- digits, too many, a leading zero, and a number that is too large.
  have hempty : (Nat.toDigits radix n).isEmpty = false := by
    simp [Nat.toDigits_ne_nil]
  have hany : most.any (· < (Nat.toDigits radix n).length) = false := by
    cases most with
    | none => rfl
    | some k => simpa using hmost k rfl
  have hzero : (!zeros && (Nat.toDigits radix n).head? == some '0' &&
      decide (1 < (Nat.toDigits radix n).length)) = false := by
    rcases Nat.eq_zero_or_pos n with rfl | hpos
    · simp [Nat.toDigits_zero]
    · simp [head?_toDigits_ne_zero radix h1 hr n hpos]
  simp only [readNumber, hdigits, hempty, hany, numberOf_toDigits radix h1 hr,
    List.drop_left, Bool.or_false, Bool.false_eq_true, if_false]
  rw [if_neg (by simpa using hzero), if_neg (by omega)]

/-- What a number in one of the radices of an address ends at. -/
def endsNumber (radix : Nat) (rest : List Char) : Prop :=
  ∀ c ∈ rest.head?, isDigitOf radix c = false

theorem readOctet_first (a : UInt8) (rest : List Char) (hrest : endsNumber 10 rest) :
    readOctet true (Nat.toDigits 10 a.toNat ++ rest) = some (a, rest) := by
  have ha := a.toNat_lt
  have hmost : ∀ k ∈ some 3, (Nat.toDigits 10 a.toNat).length ≤ k := by
    intro k hk
    rw [← Option.some.inj hk, Nat.length_toDigits_le_iff (by omega) (by omega)]
    omega
  have hnumber := readNumber_toDigits 10 (some 3) false 255 a.toNat rest (by omega) (by omega)
    (by omega) hmost hrest
  simp only [readOctet, readNext, if_true, hnumber, Option.map_some, UInt8.ofNat_toNat]

theorem readOctet_next (a : UInt8) (rest : List Char) (hrest : endsNumber 10 rest) :
    readOctet false ('.' :: (Nat.toDigits 10 a.toNat ++ rest)) = some (a, rest) := by
  have hfirst := readOctet_first a rest hrest
  simp only [readOctet, readNext, if_true] at hfirst
  simp only [readOctet, readNext, readChar, Bool.false_eq_true, if_false, if_true,
    Option.bind_some, hfirst]

theorem endsNumber_point (rest : List Char) : endsNumber 10 ('.' :: rest) := by
  intro c hc
  rw [← Option.some.inj hc]
  decide

theorem endsNumber_colon (radix : Nat) (rest : List Char) :
    endsNumber radix (':' :: rest) := by
  intro c hc
  rw [← Option.some.inj hc]
  simp [isDigitOf, digitValue?]

theorem endsNumber_nil (radix : Nat) : endsNumber radix [] := by
  intro c hc
  simp at hc

/-- The characters of an IPv4 address. -/
def octetChars (address : Ipv4) : List Char :=
  Nat.toDigits 10 address.a.toNat ++ '.' :: (Nat.toDigits 10 address.b.toNat ++
    '.' :: (Nat.toDigits 10 address.c.toNat ++ '.' :: Nat.toDigits 10 address.d.toNat))

theorem toList_octetsText (address : Ipv4) :
    (octetsText [address.a.toNat, address.b.toNat, address.c.toNat, address.d.toNat]).toList =
      octetChars address := by
  simp [octetsText, octetChars, Nat.toList_repr]

theorem readIpv4_octetChars (address : Ipv4) :
    readIpv4 (octetChars address) = some (address, []) := by
  have hd := readOctet_next address.d [] (endsNumber_nil 10)
  rw [List.append_nil] at hd
  simp only [readIpv4, octetChars, readOctet_first _ _ (endsNumber_point _),
    readOctet_next _ _ (endsNumber_point _), hd, Option.pure_def, Option.bind_eq_bind,
    Option.bind_some]

-- An IPv4 address has a point behind its first number.
theorem readIpv4_of_no_point (cs : List Char) (h : '.' ∉ cs) : readIpv4 cs = none := by
  rcases hfirst : readOctet true cs with _ | ⟨a, rest⟩
  · simp [readIpv4, hfirst]
  · -- What is left begins with a point only if the whole list has one.
    have hrest : ∃ n, rest = cs.drop n := by
      simp only [readOctet, readNext, if_true, readNumber] at hfirst
      split at hfirst
      · simp at hfirst
      · split at hfirst
        · simp at hfirst
        · split at hfirst
          · simp at hfirst
          · simp only [Option.map_some, Option.some.injEq, Prod.mk.injEq] at hfirst
            exact ⟨_, hfirst.2.symm⟩
    rcases hrest with ⟨n, rfl⟩
    have hnext : readOctet false (cs.drop n) = none := by
      cases hdrop : cs.drop n with
      | nil => rfl
      | cons c tail =>
          have hc : '.' ≠ c := by
            intro hc
            apply h
            rw [hc]
            exact List.mem_of_mem_drop (hdrop ▸ List.mem_cons_self)
          simp [readOctet, readNext, readChar, hc]
    simp [readIpv4, hfirst, hnext]

theorem readIpv4_colon (rest : List Char) : readIpv4 (':' :: rest) = none := by
  simp [readIpv4, readOctet, readNext, readNumber, isDigitOf, digitValue?]

theorem readGroup_colon (rest : List Char) :
    readNumber 16 (some 4) true 0xFFFF (':' :: rest) = none := by
  simp [readNumber, isDigitOf, digitValue?]

/-- The characters of a group. -/
def groupChars (g : UInt16) : List Char := Nat.toDigits 16 g.toNat

/-- The characters of groups, each behind a colon. -/
def laterChars (groups : List UInt16) : List Char :=
  groups.flatMap fun g => ':' :: groupChars g

/-- The characters of groups with colons between them. -/
def groupsChars : List UInt16 → List Char
  | [] => []
  | g :: rest => groupChars g ++ laterChars rest

theorem toList_groupsText (groups : List UInt16) :
    (groupsText groups).toList = groupsChars groups := by
  cases groups with
  | nil => simp [groupsText, groupsChars]
  | cons g rest =>
      have hlater : ∀ (g : UInt16) (rest : List UInt16),
          (String.intercalate ":" ((g :: rest).map groupText)).toList =
            groupChars g ++ laterChars rest := by
        intro g rest
        induction rest generalizing g with
        | nil => simp [groupText, groupChars, laterChars]
        | cons g' rest ih =>
            have h' := ih g'
            simp only [List.map_cons] at h' ⊢
            rw [String.intercalate_cons_cons]
            simp only [String.toList_append, h', laterChars, List.flatMap_cons]
            simp [groupText, groupChars]
      exact hlater g rest

theorem readGroup_groupChars (g : UInt16) (rest : List Char) (hrest : endsNumber 16 rest) :
    readNumber 16 (some 4) true 0xFFFF (groupChars g ++ rest) = some (g.toNat, rest) := by
  have hg := g.toNat_lt
  refine readNumber_toDigits 16 (some 4) true 0xFFFF g.toNat rest (by omega) (by omega)
    (by omega) (fun k hk => ?_) hrest
  rw [← Option.some.inj hk, Nat.length_toDigits_le_iff (by omega) (by omega)]
  omega

/-- Where a run of groups ends: at the end of the text, or at the two colons
    that stand for zeros. -/
def endsGroups (rest : List Char) : Prop := rest = [] ∨ ∃ tail, rest = ':' :: ':' :: tail

theorem endsGroups_endsNumber (groups : List UInt16) (rest : List Char) (h : endsGroups rest) :
    endsNumber 16 (laterChars groups ++ rest) := by
  cases groups with
  | nil =>
      rcases h with rfl | ⟨tail, rfl⟩
      · exact endsNumber_nil 16
      · exact endsNumber_colon 16 _
  | cons g groups => exact endsNumber_colon 16 _

-- Where a run of groups ends, no group is read.
theorem readGroups_end (room : Nat) (rest : List Char) (h : endsGroups rest) (first : Bool) :
    readGroups room first rest = ([], false, rest) := by
  cases room with
  | zero => rfl
  | succ room =>
      rcases h with rfl | ⟨tail, rfl⟩
      · cases first <;> cases room <;>
          simp [readGroups, readNext, readChar, readIpv4, readOctet, readNumber]
      · cases first <;> by_cases hroom : room = 0 <;>
          simp [readGroups, hroom, readNext, readChar, readIpv4_colon, readGroup_colon]

-- Groups behind the first are read back, by induction along the groups: the
-- reader and the spelling take one group off at a time.
theorem readGroups_laterChars (groups : List UInt16) (rest : List Char) (h : endsGroups rest)
    (room : Nat) (hroom : groups.length ≤ room) (hpoint : '.' ∉ laterChars groups ++ rest) :
    readGroups room false (laterChars groups ++ rest) = (groups, false, rest) := by
  induction groups generalizing room with
  | nil => exact readGroups_end room rest h false
  | cons g groups ih =>
      cases room with
      | zero => simp at hroom
      | succ room =>
          have htext : laterChars (g :: groups) ++ rest =
              ':' :: (groupChars g ++ (laterChars groups ++ rest)) := by
            simp [laterChars]
          rw [htext] at hpoint ⊢
          have hpoint' : '.' ∉ groupChars g ++ (laterChars groups ++ rest) :=
            fun hmem => hpoint (List.mem_cons_of_mem _ hmem)
          have hlater := ih room (by simpa using hroom)
            (fun hmem => hpoint' (List.mem_append_right _ hmem))
          -- An IPv4 address is tried before a group, in vain without a point.
          have hv4 : (if room = 0 then none else
              readNext ':' false readIpv4 (':' :: (groupChars g ++ (laterChars groups ++ rest)))) =
                none := by
            simp [readNext, readChar, readIpv4_of_no_point _ hpoint']
          have hgroup := readGroup_groupChars g _ (endsGroups_endsNumber groups rest h)
          simp only [readGroups, hv4]
          simp only [readNext, readChar, Bool.false_eq_true, if_false, if_true, Option.bind_some,
            hgroup, hlater, UInt16.ofNat_toNat]

theorem readGroups_groupsChars (groups : List UInt16) (rest : List Char) (h : endsGroups rest)
    (room : Nat) (hroom : groups.length ≤ room) (hpoint : '.' ∉ groupsChars groups ++ rest) :
    readGroups room true (groupsChars groups ++ rest) = (groups, false, rest) := by
  cases groups with
  | nil => exact readGroups_end room rest h true
  | cons g groups =>
      cases room with
      | zero => simp at hroom
      | succ room =>
          rw [groupsChars, List.append_assoc] at hpoint ⊢
          have hlater := readGroups_laterChars groups rest h room (by simpa using hroom)
            (fun hmem => hpoint (List.mem_append_right _ hmem))
          have hv4 : (if room = 0 then none else
              readNext ':' true readIpv4 (groupChars g ++ (laterChars groups ++ rest))) =
                none := by
            simp [readNext, readIpv4_of_no_point _ hpoint]
          have hgroup := readGroup_groupChars g _ (endsGroups_endsNumber groups rest h)
          simp only [readGroups, hv4]
          simp only [readNext, if_true, hgroup, hlater, UInt16.ofNat_toNat]

theorem point_not_mem_groupChars (g : UInt16) : '.' ∉ groupChars g := by
  intro hmem
  have hdigit := toDigits_isDigitOf 16 (by omega) (by omega) g.toNat '.' hmem
  revert hdigit
  decide

theorem point_not_mem_laterChars (groups : List UInt16) : '.' ∉ laterChars groups := by
  intro hmem
  rcases List.mem_flatMap.mp hmem with ⟨g, -, hg⟩
  rcases List.mem_cons.mp hg with hc | hg
  · exact absurd hc (by decide)
  · exact point_not_mem_groupChars g hg

theorem point_not_mem_groupsChars (groups : List UInt16) : '.' ∉ groupsChars groups := by
  cases groups with
  | nil => simp [groupsChars]
  | cons g groups =>
      intro hmem
      rcases List.mem_append.mp hmem with hmem | hmem
      · exact point_not_mem_groupChars g hmem
      · exact point_not_mem_laterChars groups hmem

-- The run that `longestZeros` finds is a run of zeros.
theorem longestZeros_le (groups : List UInt16) :
    (longestZeros groups).2 ≤ leadingZeros (groups.drop (longestZeros groups).1) := by
  refine List.foldlRecOn (List.range groups.length) _
    (motive := fun best : Nat × Nat => best.2 ≤ leadingZeros (groups.drop best.1))
    (Nat.zero_le _) ?_
  intro best hbest i _
  -- A run that is longer than the best so far begins where it was looked for.
  by_cases hlt : best.2 < leadingZeros (groups.drop i)
  · simp only [if_pos hlt, Nat.le_refl]
  · simp only [if_neg hlt, hbest]

theorem take_leadingZeros (groups : List UInt16) (n : Nat) (hn : n ≤ leadingZeros groups) :
    groups.take n = List.replicate n 0 := by
  rw [leadingZeros] at hn
  have hprefix : groups.takeWhile (· == 0) <+: groups := List.takeWhile_prefix _
  have htake : groups.take n = (groups.takeWhile (· == 0)).take n := by
    rw [List.prefix_iff_eq_take.mp hprefix, List.take_take, Nat.min_eq_left hn]
  rw [htake]
  refine List.eq_replicate_iff.mpr ⟨?_, ?_⟩
  · rw [List.length_take]
    exact Nat.min_eq_left hn
  · intro g hg
    have hzero : (g == 0) = true :=
      List.mem_takeWhile_imp (p := (· == 0)) (List.mem_of_mem_take hg)
    exact beq_iff_eq.mp hzero

/-- The groups before and behind the longest run of zeros, and the run. -/
theorem longestZeros_split (groups : List UInt16) :
    groups.take (longestZeros groups).1 ++
      List.replicate (longestZeros groups).2 0 ++
      groups.drop ((longestZeros groups).1 + (longestZeros groups).2) = groups := by
  rw [← take_leadingZeros _ _ (longestZeros_le groups), ← List.drop_drop, List.append_assoc,
    List.take_append_drop, List.take_append_drop]

theorem fillGroups_split (head tail : List UInt16) (n : Nat) (address : Ipv6Groups)
    (h : head ++ List.replicate n 0 ++ tail = address.groups) :
    fillGroups head tail = some address := by
  have hlength : (head ++ List.replicate n 0 ++ tail).length = 8 := by
    rw [h, address.count]
  -- As many groups are filled in as are missing to eight.
  have hn : 8 - head.length - tail.length = n := by
    simp only [List.length_append, List.length_replicate] at hlength
    omega
  simp only [fillGroups, hn]
  rw [dif_pos hlength]
  exact congrArg some (by cases address; simp_all)

-- Groups around two colons are read back, if the colons stand for at least
-- two groups.
theorem readIpv6_split (head tail : List UInt16) (n : Nat) (hn : 1 < n) (address : Ipv6Groups)
    (h : head ++ List.replicate n 0 ++ tail = address.groups) :
    readIpv6 (groupsChars head ++ ':' :: ':' :: groupsChars tail) = some (address, []) := by
  have hlength : head.length + n + tail.length = 8 := by
    rw [← address.count, ← h]
    simp only [List.length_append, List.length_replicate]
  have hhead := readGroups_groupsChars head (':' :: ':' :: groupsChars tail)
    (Or.inr ⟨_, rfl⟩) 8 (by omega) (by
      simp [point_not_mem_groupsChars])
  have htail := readGroups_groupsChars tail [] (Or.inl rfl) (7 - head.length) (by omega)
    (by simp [point_not_mem_groupsChars])
  rw [List.append_nil] at htail
  have hne : ¬ head.length = 8 := by omega
  simp only [readIpv6, hhead, if_neg hne, Bool.false_eq_true, if_false, readChar, if_true,
    Option.bind_eq_bind, Option.bind_some, htail, fillGroups_split head tail n address h,
    Option.pure_def]

-- Eight groups are read back.
theorem readIpv6_full (address : Ipv6Groups) :
    readIpv6 (groupsChars address.groups) = some (address, []) := by
  have hgroups := readGroups_groupsChars address.groups [] (Or.inl rfl) 8
    (by rw [address.count]) (by simp [point_not_mem_groupsChars])
  rw [List.append_nil] at hgroups
  have hfill := fillGroups_split address.groups [] 0 address (by simp)
  simp only [readIpv6, hgroups, address.count, if_true, hfill, Option.map_some]

-- An IPv6 address that maps an IPv4 address is read back.
theorem readIpv6_mapped (v4 : Ipv4) (address : Ipv6Groups)
    (h : address.groups =
      [0, 0, 0, 0, 0, 0xFFFF, groupOfOctets v4.a v4.b, groupOfOctets v4.c v4.d]) :
    readIpv6 (':' :: ':' :: 'f' :: 'f' :: 'f' :: 'f' :: ':' :: octetChars v4) =
      some (address, []) := by
  have hhead := readGroups_end 8 (':' :: ':' :: 'f' :: 'f' :: 'f' :: 'f' :: ':' :: octetChars v4)
    (Or.inr ⟨_, rfl⟩) true
  -- The group of ones is not taken for the first octet.
  have hv4 : readIpv4 ('f' :: 'f' :: 'f' :: 'f' :: ':' :: octetChars v4) = none := by
    simp [readIpv4, readOctet, readNext, readNumber, isDigitOf, digitValue?]
  have hffff := readGroup_groupChars 0xFFFF (':' :: octetChars v4) (endsNumber_colon 16 _)
  have hchars : groupChars 0xFFFF = ['f', 'f', 'f', 'f'] := by decide
  rw [hchars] at hffff
  have htail : readGroups 7 true ('f' :: 'f' :: 'f' :: 'f' :: ':' :: octetChars v4) =
      ([0xFFFF, groupOfOctets v4.a v4.b, groupOfOctets v4.c v4.d], true, []) := by
    simp only [List.cons_append, List.nil_append] at hffff
    simp [readGroups, readNext, hv4, hffff, readChar, readIpv4_octetChars]
  have hfill := fillGroups_split []
    [0xFFFF, groupOfOctets v4.a v4.b, groupOfOctets v4.c v4.d] 5 address (by rw [h]; rfl)
  simp [readIpv6, hhead, readChar, htail, hfill]

theorem groupOfOctets_split (g : UInt16) :
    groupOfOctets (UInt8.ofNat (g.toNat / 256)) (UInt8.ofNat (g.toNat % 256)) = g := by
  have hg := g.toNat_lt
  apply UInt16.toNat_inj.mp
  simp only [groupOfOctets, UInt8.toNat_ofNat', UInt16.toNat_ofNat']
  omega

theorem readIpv6_ipv6Text (address : Ipv6Groups) :
    readIpv6 (ipv6Text address).toList = some (address, []) := by
  rw [ipv6Text]
  split
  · next high low hgroups =>
    let v4 : Ipv4 := ⟨UInt8.ofNat (high.toNat / 256), UInt8.ofNat (high.toNat % 256),
      UInt8.ofNat (low.toNat / 256), UInt8.ofNat (low.toNat % 256)⟩
    have hhigh := high.toNat_lt
    have hlow := low.toNat_lt
    -- The printer takes the octets from the last two groups.
    have hoctets : octetsText [high.toNat / 256, high.toNat % 256, low.toNat / 256,
        low.toNat % 256] = octetsText [v4.a.toNat, v4.b.toNat, v4.c.toNat, v4.d.toNat] := by
      simp only [v4, UInt8.toNat_ofNat']
      congr 1
      simp only [List.cons.injEq, and_true]
      omega
    rw [hoctets, String.toList_append, toList_octetsText]
    exact readIpv6_mapped v4 address (by
      simp only [v4, groupOfOctets_split]
      exact hgroups)
  · -- A single zero is written out, so two colons stand for at least two.
    by_cases hlong : 1 < (longestZeros address.groups).2
    · simp only [if_pos hlong, String.toList_append, toList_groupsText]
      have hsplit := readIpv6_split _ _ _ hlong address (longestZeros_split address.groups)
      simpa using hsplit
    · simp only [if_neg hlong, toList_groupsText]
      exact readIpv6_full address

-- No spelling of an IPv6 address begins like one of an IPv4 address.
theorem readIpv4_ipv6Text (address : Ipv6Groups) : readIpv4 (ipv6Text address).toList = none := by
  rw [ipv6Text]
  split
  · rw [String.toList_append]
    exact readIpv4_colon _
  · by_cases hlong : 1 < (longestZeros address.groups).2
    · apply readIpv4_of_no_point
      simp [if_pos hlong, toList_groupsText, point_not_mem_groupsChars]
    · apply readIpv4_of_no_point
      simp [if_neg hlong, toList_groupsText, point_not_mem_groupsChars]

end Address

/-- The canonical spelling of an address is read back as that address. -/
theorem Ip.parse?_toText (ip : Ip) : Ip.parse? ip.toText = some ip := by
  cases ip with
  | v4 address =>
      simp only [Ip.parse?, Address.whole?, Ip.toText, Address.readIp,
        Address.toList_octetsText, Address.readIpv4_octetChars]
  | v6 address =>
      simp only [Ip.parse?, Address.whole?, Ip.toText, Address.readIp,
        Address.readIpv4_ipv6Text, Address.readIpv6_ipv6Text, Option.map_some]

/-- No two addresses have one canonical spelling. -/
theorem Ip.toText_injective {x y : Ip} (h : x.toText = y.toText) : x = y := by
  have hx := Ip.parse?_toText x
  rw [h, Ip.parse?_toText] at hx
  exact (Option.some.inj hx).symm

end ChatHost
