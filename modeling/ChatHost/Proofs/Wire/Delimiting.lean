import ChatHost.Proofs.Wire.RoundTrip
import Mathlib.Data.List.Basic

/-!
# Bytes from Anyone

What a decoder makes of bytes that nobody has encoded.

Whatever it reads, it reads from some bytes at the front, and these say by themselves
where they end: nothing behind them is looked at, and if any of them is missing, the
decoder says that bytes are missing and makes up nothing (`Decoder.Delimits`). How many
bytes were taken, and what is known of the value then, is known with it
(`Decoder.Yields`): the count in front of a list cannot make it longer than its bytes,
since each row takes some of them, and a length in front of a text cannot make it longer
than the bytes there are.

Every decoder is made of one step that can run out of bytes, so all of this is a matter
of how decoders are put together (`Decoder.Sturdy.bind`), and the loop over the rows of
a list is no exception.

No name that is read is too long, because its text comes from a field that is no longer
than a name may be. So the judgement on its length, which a decoder of names makes, is
never against it (`Decoder.Sturdy.name`).

## Main definitions

* `Decoder.CutOff`: A decoder says that bytes are missing.
* `Decoder.Delimits`: What is read says where it ends.
* `Decoder.Lenient`: No name is found too long.
* `Decoder.Yields`: What is known of what is read, and of the bytes that it took.
* `Decoder.Sturdy`: All three.
* `Contents.Plain`: What is known of a payload that has been read.
* `Withstands`: What holds of a type of payload, whatever the bytes.
* `Restores`: What has been read is read again from what it is encoded as.
* `MessageRow.unterminated`: The bytes of a row whose text is not ended by a NUL.

## Theorems

* `Decoder.Sturdy.bind`, `Decoder.Sturdy.rows`: One after the other, and many.
* `Guarded.withstands`: A type whose decoder is made in this way withstands all bytes.
* `Brief.restores`, `SayRequest.restores`: Which payloads are always read again.
* `MessageRow.value_of_longest`: The one text with which a row is not.
* `hostile_bytes_withstood`: All types withstand all bytes.
* `longestRow_loses_name`: A row that is read but not read again.
-/

namespace ChatHost

namespace Decoder

variable {α β : Type}

-- Two decoders one after the other, by what becomes of the first.
theorem bind_eq_of_ok {d : Decoder α} {f : α → Decoder β} {bytes mid : Bytes} {a : α}
    (h : d bytes = (.ok a, mid)) : (d >>= f) bytes = f a mid := by
  have hbind : (d >>= f) bytes = Decoder.bind d f bytes := rfl
  rw [hbind, Decoder.bind, h]

theorem bind_eq_of_error {d : Decoder α} {f : α → Decoder β} {bytes mid : Bytes}
    {e : DecodeError} (h : d bytes = (.error e, mid)) : (d >>= f) bytes = (.error e, mid) := by
  have hbind : (d >>= f) bytes = Decoder.bind d f bytes := rfl
  rw [hbind, Decoder.bind, h]

/-- A decoder says that it needs more bytes than are left. -/
def CutOff (d : Decoder α) (bytes : Bytes) : Prop :=
  ∃ needed remaining rest, remaining < needed ∧
    d bytes = (.error (.truncated needed remaining), rest)

theorem CutOff.bind {d : Decoder α} {bytes : Bytes} (h : d.CutOff bytes) (f : α → Decoder β) :
    (d >>= f).CutOff bytes := by
  rcases h with ⟨needed, remaining, rest, hlt, hcut⟩
  exact ⟨needed, remaining, rest, hlt, bind_eq_of_error hcut⟩

theorem Reads.bind_cutOff {d : Decoder α} {f : α → Decoder β} {bytes bytes' : Bytes} {a : α}
    (hd : d.Reads bytes a) (hf : (f a).CutOff bytes') : (d >>= f).CutOff (bytes ++ bytes') := by
  rcases hf with ⟨needed, remaining, rest, hlt, hcut⟩
  exact ⟨needed, remaining, rest, hlt, (bind_eq_of_ok (hd bytes')).trans hcut⟩

/-- What a decoder reads are some bytes at the front. It reads the same from them whatever
    comes behind, and is cut off if some of them are missing at the end. -/
def Delimits (d : Decoder α) : Prop :=
  ∀ bytes a rest, d bytes = (.ok a, rest) →
    ∃ taken, bytes = taken ++ rest ∧ d.Reads taken a ∧ ∀ k < taken.length, d.CutOff (taken.take k)

/-- No name is found too long. -/
def Lenient (d : Decoder α) : Prop :=
  ∀ bytes size limit, (d bytes).1 ≠ .error (.nameTooLong size limit)

/-- Whatever a decoder reads has some property together with the number of bytes taken. -/
def Yields (d : Decoder α) (P : α → Nat → Prop) : Prop :=
  ∀ bytes a rest, d bytes = (.ok a, rest) → ∃ n, bytes.length = n + rest.length ∧ P a n

section Composition

variable {d : Decoder α} {f : α → Decoder β}

/-- What is read by one decoder and then by another ends where the second says. The second
    is only asked about what the first can read. -/
theorem Delimits.bind (hd : d.Delimits)
    (hf : ∀ bytes a rest, d bytes = (.ok a, rest) → (f a).Delimits) : (d >>= f).Delimits := by
  intro bytes b rest h
  rcases bind_ok h with ⟨a, mid, hfirst, hsecond⟩
  rcases hf bytes a mid hfirst mid b rest hsecond with ⟨back, rfl, hreads', hcut'⟩
  rcases hd bytes a _ hfirst with ⟨front, rfl, hreads, hcut⟩
  refine ⟨front ++ back, (List.append_assoc front back rest).symm, hreads.bind hreads',
    fun k hk => ?_⟩
  -- What is missing is missing from the second part, or also from the first.
  by_cases hfront : k < front.length
  · rw [List.take_append_of_le_length (Nat.le_of_lt hfront)]
    exact (hcut k hfront).bind f
  · have hback : k - front.length < back.length := by
      rw [List.length_append] at hk
      omega
    rw [List.take_append, List.take_of_length_le (Nat.le_of_not_lt hfront)]
    exact hreads.bind_cutOff (hcut' _ hback)

theorem Lenient.bind (hd : d.Lenient)
    (hf : ∀ bytes a rest, d bytes = (.ok a, rest) → (f a).Lenient) : (d >>= f).Lenient := by
  intro bytes size limit h
  rcases hfirst : d bytes with ⟨e | a, mid⟩
  · rw [bind_eq_of_error hfirst] at h
    exact hd bytes size limit (by rw [hfirst, Except.error.inj h])
  · rw [bind_eq_of_ok hfirst] at h
    exact hf bytes a mid hfirst mid size limit h

theorem Yields.bind {P : α → Nat → Prop} {Q : β → Nat → Prop} (hd : d.Yields P)
    (hf : ∀ a m, P a m → (f a).Yields fun b n => Q b (m + n)) : (d >>= f).Yields Q := by
  intro bytes b rest h
  rcases bind_ok h with ⟨a, mid, hfirst, hsecond⟩
  rcases hd bytes a mid hfirst with ⟨m, hlength, hP⟩
  rcases hf a m hP mid b rest hsecond with ⟨n, hlength', hQ⟩
  exact ⟨m + n, by omega, hQ⟩

end Composition

/-- A decoder takes bytes from anyone: what it reads ends where it says, it finds no name too
    long, and what it reads has some property. -/
structure Sturdy (d : Decoder α) (P : α → Nat → Prop) : Prop where
  delimits : d.Delimits
  lenient : d.Lenient
  yields : d.Yields P

namespace Sturdy

theorem imp {d : Decoder α} {P Q : α → Nat → Prop} (h : d.Sturdy P)
    (hPQ : ∀ a n, P a n → Q a n) : d.Sturdy Q := by
  refine ⟨h.delimits, h.lenient, fun bytes a rest hread => ?_⟩
  rcases h.yields bytes a rest hread with ⟨n, hlength, hP⟩
  exact ⟨n, hlength, hPQ a n hP⟩

theorem pure {P : α → Nat → Prop} {a : α} (h : P a 0) : (Pure.pure a : Decoder α).Sturdy P := by
  refine ⟨fun bytes b rest hread => ?_, fun _ _ _ hlong => (nomatch hlong),
    fun bytes b rest hread => ?_⟩
  · rcases Prod.mk.inj hread with ⟨hvalue, rfl⟩
    rw [← Except.ok.inj hvalue]
    exact ⟨[], rfl, Reads.pure a, fun k hk => absurd hk (Nat.not_lt_zero k)⟩
  · rcases Prod.mk.inj hread with ⟨hvalue, rfl⟩
    rw [← Except.ok.inj hvalue]
    exact ⟨0, (Nat.zero_add _).symm, h⟩

theorem take (n : Nat) : (Decoder.take n).Sturdy fun field m => m = n ∧ field.length = n := by
  refine ⟨fun bytes field rest h => ?_, fun bytes size limit h => ?_, fun bytes field rest h => ?_⟩
  · rcases take_ok h with ⟨rfl, rfl, hlong⟩
    have hlength : (bytes.take n).length = n := List.length_take_of_le hlong
    refine ⟨bytes.take n, (List.take_append_drop n bytes).symm, Reads.take hlength,
      fun k hk => ?_⟩
    have hshort : ((bytes.take n).take k).length < n := by
      rw [List.length_take]
      omega
    refine ⟨n, ((bytes.take n).take k).length, (bytes.take n).take k, hshort, ?_⟩
    have hhead : ((bytes.take n).take k).take n = (bytes.take n).take k :=
      List.take_of_length_le (Nat.le_of_lt hshort)
    rw [Decoder.take, hhead]
    exact if_pos hshort
  · simp only [Decoder.take] at h
    split at h <;> simp at h
  · rcases take_ok h with ⟨rfl, rfl, hlong⟩
    refine ⟨n, ?_, rfl, List.length_take_of_le hlong⟩
    rw [List.length_drop]
    omega

/-- The decoders of all payloads are made in this way. -/
theorem bind {d : Decoder α} {f : α → Decoder β} {P : α → Nat → Prop} {Q : β → Nat → Prop}
    (hd : d.Sturdy P) (hf : ∀ a m, P a m → (f a).Sturdy fun b n => Q b (m + n)) :
    (d >>= f).Sturdy Q := by
  refine ⟨hd.delimits.bind fun bytes a rest h => ?_, hd.lenient.bind fun bytes a rest h => ?_,
    hd.yields.bind fun a m hP => (hf a m hP).yields⟩
  · rcases hd.yields bytes a rest h with ⟨m, -, hP⟩
    exact (hf a m hP).delimits
  · rcases hd.yields bytes a rest h with ⟨m, -, hP⟩
    exact (hf a m hP).lenient

theorem map {d : Decoder α} {P : α → Nat → Prop} {Q : β → Nat → Prop} (hd : d.Sturdy P)
    (g : α → β) (h : ∀ a n, P a n → Q (g a) n) :
    (d >>= fun a => Pure.pure (g a)).Sturdy Q :=
  hd.bind fun a m hP => pure (h a m hP)

theorem u8 : Decoder.u8.Sturdy fun _ n => n = 1 := (take 1).map _ fun _ _ h => h.1

theorem u16 : Decoder.u16.Sturdy fun _ n => n = 2 := (take 2).map _ fun _ _ h => h.1

theorem u32 : Decoder.u32.Sturdy fun _ n => n = 4 := (take 4).map _ fun _ _ h => h.1

theorem skip (k : Nat) : (Decoder.skip k).Sturdy fun _ n => n = k :=
  (take k).map _ fun _ _ h => h.1

-- The value of an option takes no bytes.
theorem ofOption {e : DecodeError} (he : ∀ size limit, e ≠ .nameTooLong size limit)
    (option : Option α) : (Decoder.ofOption e option).Sturdy fun a n => option = some a ∧ n = 0 := by
  cases option with
  | none =>
      exact ⟨fun _ _ _ h => (nomatch (Prod.mk.inj h).1),
        fun _ size limit h => he size limit (Except.error.inj h),
        fun _ _ _ h => (nomatch (Prod.mk.inj h).1)⟩
  | some a => exact pure ⟨rfl, rfl⟩

/-- A text has no NUL in it, and no more bytes than its field. -/
theorem text (k : Nat) :
    (Decoder.text k).Sturdy fun s n => n = k ∧ '\x00' ∉ s.toList ∧ s.utf8ByteSize ≤ k := by
  refine (take k).bind fun field m hfield => ?_
  refine (ofOption (by nofun) _).imp fun s n hs => ?_
  rcases of_decoded hs.1 with ⟨hnul, hsize⟩
  exact ⟨by omega, hnul, hfield.2 ▸ hsize⟩

/-- A name is a text in the field of a name, so it is never too long. -/
theorem name : Decoder.name.Sturdy fun name n => n = 20 ∧ '\x00' ∉ name.text.toList := by
  refine (text Name.capacity).bind fun s m hs => ?_
  have hfits : Name.ofText s = .ok ⟨s, hs.2.2⟩ := dif_pos hs.2.2
  rw [nameOfText, hfits]
  exact pure ⟨hs.1, hs.2.1⟩

/-- There are as many rows as were asked for. Each has its property with some of the bytes
    that were taken, and together they take at least what each of them does. -/
theorem rows {item : Decoder α} {P : α → Nat → Prop} (h : item.Sturdy P) {least : Nat}
    (hleast : ∀ a n, P a n → least ≤ n) (k : Nat) :
    (Decoder.rows item k).Sturdy fun items n =>
      items.length = k ∧ least * k ≤ n ∧ ∀ a ∈ items, ∃ m ≤ n, P a m := by
  induction k with
  | zero =>
      exact pure ⟨rfl, Nat.le_refl 0, fun a ha => absurd ha List.not_mem_nil⟩
  | succ k ih =>
      refine h.bind fun a m hP => ih.map (a :: ·) fun items n hitems => ?_
      rcases hitems with ⟨hlength, hsize, hall⟩
      refine ⟨congrArg Nat.succ hlength, ?_, List.forall_mem_cons.mpr ⟨?_, ?_⟩⟩
      · have hitem := hleast a m hP
        rw [Nat.mul_succ]
        omega
      · exact ⟨m, Nat.le_add_right m n, hP⟩
      · intro b hb
        rcases hall b hb with ⟨l, hl, hPl⟩
        exact ⟨l, by omega, hPl⟩

end Sturdy

end Decoder

open Contents

-- Nothing in a header is a text or a count.
instance : Contents RequestHeader where
  texts _ := []
  counts _ := []
  untilNul header := header

instance : Contents ResponseHeader where
  texts _ := []
  counts _ := []
  untilNul header := header

instance : Legible RequestHeader where
  reads header _ := header.reads
  untilNul_eq _ _ := rfl

instance : Legible ResponseHeader where
  reads header _ := header.reads
  untilNul_eq _ _ := rfl

/-- What is known of a payload that has been read from some number of bytes: no text in it
    has a NUL, none is longer than the bytes, and numbers of four bytes have announced it. -/
structure Contents.Plain {α : Type} [Contents α] (a : α) (n : Nat) : Prop where
  nulFree : NulFree a
  texts : ∀ s ∈ texts a, s.utf8ByteSize ≤ n ∧ s.utf8ByteSize < UInt32.size
  counts : ∀ c ∈ counts a, c < UInt32.size

namespace Contents.Plain

variable {α : Type} [Contents α] {a : α} {n : Nat}

-- Where there are no texts and no counts, nothing is to be known.
theorem of_nil (htexts : Contents.texts a = []) (hcounts : Contents.counts a = []) :
    Plain a n := by
  refine ⟨fun s hs => ?_, fun s hs => ?_, fun c hc => ?_⟩
  · exact absurd (htexts ▸ hs) List.not_mem_nil
  · exact absurd (htexts ▸ hs) List.not_mem_nil
  · exact absurd (hcounts ▸ hc) List.not_mem_nil

-- One name is all there is.
theorem of_name {name : Name} (htexts : Contents.texts a = [name.text])
    (hcounts : Contents.counts a = []) (hn : 20 ≤ n) (hname : '\x00' ∉ name.text.toList) :
    Plain a n := by
  have hsize : name.text.utf8ByteSize ≤ 20 := name.fits
  refine ⟨fun s hs => ?_, fun s hs => ?_, fun c hc => absurd (hcounts ▸ hc) List.not_mem_nil⟩
  · rw [htexts, List.mem_singleton] at hs
    exact hs ▸ hname
  · rw [htexts, List.mem_singleton] at hs
    rw [hs]
    exact ⟨Nat.le_trans hsize hn, Nat.lt_of_le_of_lt hsize (by decide)⟩

/-- Such a payload can be announced again, unless a text has as many bytes as the largest
    number of four bytes: with the NUL that ends it that is one too many. -/
theorem fits (h : Plain a n)
    (htexts : ∀ s ∈ Contents.texts a, s.utf8ByteSize ≠ UInt32.size - 1) : Fits a := by
  refine ⟨h.counts, fun s hs => ?_⟩
  have hsize := (h.texts s hs).2
  have hne := htexts s hs
  omega

end Contents.Plain

/-- The decoder of a type of payload takes bytes from anyone. -/
class Guarded (α : Type) [Payload α] [Contents α] : Prop where
  sturdy : (Payload.decode : Decoder α).Sturdy Plain

open Decoder

instance : Guarded RequestHeader where
  sturdy := Sturdy.u32.bind fun _ _ _ => (Sturdy.ofOption (by nofun) _).map _ fun _ _ _ =>
    Plain.of_nil rfl rfl

instance : Guarded ResponseHeader where
  sturdy := by
    refine Sturdy.u32.bind fun kindCode _ _ => Sturdy.u32.bind fun statusCode _ _ => ?_
    refine (Sturdy.ofOption (by nofun) _).bind fun kind _ _ => ?_
    exact (Sturdy.ofOption (by nofun) _).map _ fun _ _ _ => Plain.of_nil rfl rfl

instance : Guarded JoinRequest where
  sturdy := Sturdy.name.map _ fun _ _ h => Plain.of_name rfl rfl (Nat.le_of_eq h.1.symm) h.2

instance : Guarded OpenRequest where
  sturdy := Sturdy.u32.map _ fun _ _ _ => Plain.of_nil rfl rfl

instance : Guarded SayRequest where
  sturdy := by
    refine Sturdy.u32.bind fun length m _ => Sturdy.u32.bind fun channel m' _ => ?_
    refine (Sturdy.text length.toNat).map _ fun s n hs => ?_
    refine ⟨fun t ht => ?_, fun t ht => ?_, fun c hc => absurd hc List.not_mem_nil⟩
    · obtain rfl : t = s := List.mem_singleton.mp ht
      exact hs.2.1
    · obtain rfl : t = s := List.mem_singleton.mp ht
      exact ⟨by omega, Nat.lt_of_le_of_lt hs.2.2 length.toNat_lt⟩

instance : Guarded CreateRequest where
  sturdy := Sturdy.name.map _ fun _ _ h => Plain.of_name rfl rfl (Nat.le_of_eq h.1.symm) h.2

/-- A channel is read from 28 bytes. -/
theorem Channel.sturdy :
    (Payload.decode : Decoder Channel).Sturdy fun channel n => n = 28 ∧ Plain channel n := by
  refine Sturdy.u32.bind fun id m hid => Sturdy.name.bind fun name m' hname => ?_
  refine Sturdy.u16.bind fun server m'' hserver => (Sturdy.skip 2).map _ fun _ n hn => ?_
  refine ⟨by omega, ?_⟩
  exact Plain.of_name rfl rfl (by omega) hname.2

instance : Guarded Channel := ⟨Channel.sturdy.imp fun _ _ h => h.2⟩

/-- The row of a message is read from at least 32 bytes, and from that many if it is
    announced as having no text. -/
theorem MessageRow.sturdy :
    (Payload.decode : Decoder MessageRow).Sturdy fun row n => 32 ≤ n ∧ Plain row n := by
  refine Sturdy.u32.bind fun id m hid => Sturdy.u32.bind fun sender m' hsender => ?_
  refine Sturdy.u32.bind fun length m'' hlength => (Sturdy.text length.toNat).bind fun s k hs => ?_
  refine Sturdy.name.map _ fun name n hname => ⟨by omega, ?_⟩
  have hsize : name.text.utf8ByteSize ≤ 20 := name.fits
  have hcount := length.toNat_lt
  refine ⟨fun t ht => ?_, fun t ht => ?_, fun c hc => absurd hc List.not_mem_nil⟩
  · obtain rfl | rfl : t = s ∨ t = name.text := List.mem_pair.mp ht
    · exact hs.2.1
    · exact hname.2
  · obtain rfl | rfl : t = s ∨ t = name.text := List.mem_pair.mp ht
    · exact ⟨by omega, Nat.lt_of_le_of_lt hs.2.2 hcount⟩
    · exact ⟨by omega, Nat.lt_of_le_of_lt hsize (by decide)⟩

instance : Guarded MessageRow := ⟨MessageRow.sturdy.imp fun _ _ h => h.2⟩

/-- A list has no more items than its bytes have room for, and each has been read from some
    of them. -/
theorem sturdy_list {α : Type} [Payload α] {P : α → Nat → Prop} {least : Nat}
    (h : (Payload.decode : Decoder α).Sturdy P) (hleast : ∀ a n, P a n → least ≤ n) :
    (Payload.decode : Decoder (List α)).Sturdy fun items n =>
      items.length < UInt32.size ∧ 4 + least * items.length ≤ n ∧ ∀ a ∈ items, ∃ m ≤ n, P a m := by
  refine Sturdy.u32.bind fun count m hm => (h.rows hleast count.toNat).imp fun items n hitems => ?_
  rcases hitems with ⟨hlength, hsize, hall⟩
  rw [hlength]
  refine ⟨count.toNat_lt, by omega, fun a ha => ?_⟩
  rcases hall a ha with ⟨k, hk, hP⟩
  exact ⟨k, by omega, hP⟩

instance {α : Type} [Payload α] [Contents α] [Guarded α] : Guarded (List α) where
  sturdy := by
    refine (sturdy_list Guarded.sturdy fun _ n _ => Nat.zero_le n).imp fun items n hitems => ?_
    rcases hitems with ⟨hlength, -, hall⟩
    refine ⟨fun s hs => ?_, fun s hs => ?_, List.forall_mem_cons.mpr ⟨hlength, fun c hc => ?_⟩⟩
    · rcases List.mem_flatMap.mp hs with ⟨item, hitem, hs⟩
      rcases hall item hitem with ⟨m, -, hplain⟩
      exact hplain.nulFree s hs
    · rcases List.mem_flatMap.mp hs with ⟨item, hitem, hs⟩
      rcases hall item hitem with ⟨m, hm, hplain⟩
      exact ⟨Nat.le_trans (hplain.texts s hs).1 hm, (hplain.texts s hs).2⟩
    · rcases List.mem_flatMap.mp hc with ⟨item, hitem, hc⟩
      rcases hall item hitem with ⟨m, -, hplain⟩
      exact hplain.counts c hc

instance : Guarded Membership where
  sturdy := Sturdy.u8.map _ fun _ _ _ => Plain.of_nil rfl rfl

instance : Guarded Unit where
  sturdy := Sturdy.pure (Plain.of_nil rfl rfl)

/-- Whatever the bytes, what is read of them as a payload of some type is read from bytes at
    the front, the same in front of anything else, and from no fewer: then the decoder says
    that it needs more than are left. No text in it has a NUL, and none has more bytes than
    were taken. And no name is ever found too long. -/
def Withstands (α : Type) [Payload α] [Contents α] : Prop :=
  (∀ (bytes : Bytes) (a : α) (rest : Bytes), Payload.decode bytes = (.ok a, rest) →
    ∃ taken, bytes = taken ++ rest ∧
      (∀ suffix, Payload.decode (taken ++ suffix) = (.ok a, suffix)) ∧
      (∀ k < taken.length, ∃ needed remaining left, remaining < needed ∧
        (Payload.decode : Decoder α) (taken.take k) =
          (.error (.truncated needed remaining), left)) ∧
      (∀ s ∈ texts a, '\x00' ∉ s.toList ∧ s.utf8ByteSize ≤ taken.length)) ∧
  ∀ (bytes : Bytes) (size limit : Nat),
    ((Payload.decode : Decoder α) bytes).1 ≠ .error (.nameTooLong size limit)

theorem Guarded.withstands (α : Type) [Payload α] [Contents α] [Guarded α] : Withstands α := by
  refine ⟨fun bytes a rest h => ?_, Guarded.sturdy.lenient⟩
  rcases Guarded.sturdy.delimits bytes a rest h with ⟨taken, rfl, hreads, hcut⟩
  rcases Guarded.sturdy.yields _ a rest h with ⟨n, hlength, hplain⟩
  rw [List.length_append, Nat.add_right_cancel_iff] at hlength
  subst hlength
  exact ⟨taken, rfl, hreads, hcut, fun s hs => ⟨hplain.nulFree s hs, (hplain.texts s hs).1⟩⟩

/-- A payload that is encoded is read again, whatever comes behind it. -/
def Restored {α : Type} [Payload α] (a : α) : Prop :=
  ∀ suffix, (Payload.decode : Decoder α).value (Payload.encode a ++ suffix) = .ok a

/-- Payloads of a type are restored once they have been read. -/
def Restores (α : Type) [Payload α] : Prop :=
  ∀ (bytes : Bytes) (a : α) (rest : Bytes), Payload.decode bytes = (.ok a, rest) → Restored a

theorem Guarded.restored {α : Type} [Payload α] [Contents α] [Legible α] [Guarded α]
    {bytes rest : Bytes} {a : α} (h : Payload.decode bytes = (.ok a, rest))
    (htexts : ∀ s ∈ texts a, s.utf8ByteSize ≠ UInt32.size - 1) : Restored a := by
  rcases Guarded.sturdy.yields _ a rest h with ⟨n, -, hplain⟩
  have hreads := Legible.reads a (hplain.fits htexts)
  rw [Legible.untilNul_eq a hplain.nulFree] at hreads
  exact fun suffix => congrArg Prod.fst (hreads suffix)

/-- There are no texts but names in a payload of some type. -/
class Brief (α : Type) [Contents α] : Prop where
  short (a : α) : ∀ s ∈ texts a, s.utf8ByteSize ≤ Name.capacity

instance : Brief RequestHeader := ⟨fun _ => List.forall_mem_nil _⟩

instance : Brief ResponseHeader := ⟨fun _ => List.forall_mem_nil _⟩

instance : Brief JoinRequest := ⟨fun request => List.forall_mem_singleton.mpr request.username.fits⟩

instance : Brief OpenRequest := ⟨fun _ => List.forall_mem_nil _⟩

instance : Brief CreateRequest := ⟨fun request => List.forall_mem_singleton.mpr request.name.fits⟩

instance : Brief Channel := ⟨fun channel => List.forall_mem_singleton.mpr channel.name.fits⟩

instance {α : Type} [Contents α] [Brief α] : Brief (List α) where
  short items s hs := by
    rcases List.mem_flatMap.mp hs with ⟨item, -, hs⟩
    exact Brief.short item s hs

instance : Brief Membership := ⟨fun _ => List.forall_mem_nil _⟩

instance : Brief Unit := ⟨fun _ => List.forall_mem_nil _⟩

-- A name is never too long to be announced, and nor is the NUL behind it.
theorem ne_of_le_capacity {size : Nat} (h : size ≤ Name.capacity) : size ≠ UInt32.size - 1 :=
  Nat.ne_of_lt (Nat.lt_of_le_of_lt h (by decide))

theorem Brief.restores (α : Type) [Payload α] [Contents α] [Legible α] [Guarded α] [Brief α] :
    Restores α :=
  fun _ a _ h => Guarded.restored h fun s hs => ne_of_le_capacity (Brief.short a s hs)

/-- A text is announced with the NUL behind it, unless there is no number for both. Then that
    NUL is not announced. -/
theorem textField_announced {s : String} (h : s.utf8ByteSize < UInt32.size) :
    ∃ zeros more, (∀ b ∈ zeros, b = 0) ∧ textField s = Text.utf8Encode s ++ zeros ++ more ∧
      (Text.utf8Encode s ++ zeros).length = (UInt32.ofNat (textLength s)).toNat := by
  have hcount : textLength s = min (s.utf8ByteSize + 1) (UInt32.size - 1) := rfl
  have hzero : ∀ b ∈ ([0] : Bytes).take (textLength s - s.utf8ByteSize), b = 0 :=
    fun b hb => List.mem_singleton.mp (List.mem_of_mem_take hb)
  refine ⟨_, ([0] : Bytes).drop (textLength s - s.utf8ByteSize), hzero, ?_, ?_⟩
  · rw [List.append_assoc, List.take_append_drop, textField]
  · rw [UInt32.toNat_ofNat_of_lt' (textLength_lt s), List.length_append, Text.length_utf8Encode,
      List.length_take, List.length_singleton]
    omega

/-- The text of a saying comes last, so a NUL that is not announced is left behind it. -/
theorem SayRequest.restores : Restores SayRequest := by
  intro bytes request rest h suffix
  rcases Guarded.sturdy.yields _ request rest h with ⟨n, -, hplain⟩
  have hfree := hplain.nulFree _ List.mem_cons_self
  rcases textField_announced (hplain.texts _ List.mem_cons_self).2 with
    ⟨zeros, more, hzeros, hfield, hlength⟩
  have hreads : (Payload.decode : Decoder SayRequest).Reads
      (leBytes 4 (textLength request.text) ++ (leBytes 4 request.channel.toNat ++
        (Text.utf8Encode request.text ++ zeros))) request := by
    have htext := Reads.text hzeros hlength
    rw [Text.untilNul_eq hfree] at htext
    refine (Reads.count (textLength_lt _)).bind ?_
    exact (Reads.u32 _).bind (htext.map _)
  have hencode : Payload.encode request ++ suffix =
      leBytes 4 (textLength request.text) ++ (leBytes 4 request.channel.toNat ++
        (Text.utf8Encode request.text ++ zeros)) ++ (more ++ suffix) := by
    have hparts : Payload.encode request = leBytes 4 (textLength request.text) ++
        leBytes 4 request.channel.toNat ++ textField request.text := rfl
    rw [hparts, hfield]
    simp only [List.append_assoc]
  rw [hencode]
  exact congrArg Prod.fst (hreads (more ++ suffix))

-- The name in a row is never too long.
theorem MessageRow.texts_ne {row : MessageRow} (h : row.text.utf8ByteSize ≠ UInt32.size - 1) :
    ∀ s ∈ texts row, s.utf8ByteSize ≠ UInt32.size - 1 :=
  List.forall_mem_cons.mpr
    ⟨h, List.forall_mem_singleton.mpr (ne_of_le_capacity row.senderName.fits)⟩

-- What is read behind something is what the bytes behind it are read as.
theorem Decoder.Reads.value_bind {α β : Type} {d : Decoder α} {f : α → Decoder β} {bytes : Bytes}
    {a : α} (hd : d.Reads bytes a) (rest : Bytes) :
    (d >>= f).value (bytes ++ rest) = (f a).value rest :=
  congrArg Prod.fst (bind_eq_of_ok (hd rest))

-- A text need not be ended by a NUL if its length says where it ends.
theorem Decoder.Reads.unended {s : String} (hfree : '\x00' ∉ s.toList) {n : Nat}
    (h : s.utf8ByteSize = n) : (Decoder.text n).Reads (Text.utf8Encode s) s := by
  have hlength : (Text.utf8Encode s ++ []).length = n := by
    rw [List.append_nil, Text.length_utf8Encode, h]
  have htext := Reads.text (fun b hb => absurd hb List.not_mem_nil) hlength
  rwa [Text.untilNul_eq hfree, List.append_nil] at htext

/-- In front of the NUL that is not announced a text is whole, but the name in the row is read
    from that NUL on. So it is read as no name at all. -/
theorem MessageRow.value_of_longest {row : MessageRow} (hfree : '\x00' ∉ row.text.toList)
    (hsize : row.text.utf8ByteSize = UInt32.size - 1) (suffix : Bytes) :
    (Payload.decode : Decoder MessageRow).value (Payload.encode row ++ suffix) =
      .ok { row with senderName := .empty } := by
  have hlength : row.text.utf8ByteSize = (UInt32.ofNat (textLength row.text)).toNat := by
    rw [UInt32.toNat_ofNat_of_lt' (textLength_lt _), textLength, wireCount, hsize]
    decide
  have htext := Reads.unended hfree hlength
  have hname : Decoder.name.value (0 :: nameField row.senderName ++ suffix) = .ok .empty := by
    refine name_value.mpr ⟨?_, rfl⟩
    rw [List.length_append, List.length_cons, length_nameField]
    omega
  have hencode : Payload.encode row ++ suffix = leBytes 4 row.id.toNat ++
      (leBytes 4 row.sender.toNat ++ (leBytes 4 (textLength row.text) ++
        (Text.utf8Encode row.text ++ (0 :: nameField row.senderName ++ suffix)))) := by
    have hparts : Payload.encode row = leBytes 4 row.id.toNat ++ leBytes 4 row.sender.toNat ++
        leBytes 4 (textLength row.text) ++ textField row.text ++ nameField row.senderName := rfl
    rw [hparts, textField]
    simp only [List.append_assoc, List.cons_append, List.nil_append]
  rw [hencode]
  refine ((Reads.u32 row.id).value_bind _).trans ?_
  refine ((Reads.u32 row.sender).value_bind _).trans ?_
  refine ((Reads.count (textLength_lt row.text)).value_bind _).trans ?_
  refine (htext.value_bind _).trans ?_
  exact (value_map_iff fun _ _ h => congrArg MessageRow.senderName h).mpr hname

/-- The bytes of a row whose text is not ended by a NUL. Its length says where it ends. -/
def MessageRow.unterminated (row : MessageRow) : Bytes :=
  leBytes 4 row.id.toNat ++ (leBytes 4 row.sender.toNat ++ (leBytes 4 row.text.utf8ByteSize ++
    (Text.utf8Encode row.text ++ nameField row.senderName)))

theorem MessageRow.reads_unterminated {row : MessageRow} (hfree : NulFree row)
    (hsize : row.text.utf8ByteSize < UInt32.size) :
    (Payload.decode : Decoder MessageRow).Reads row.unterminated row := by
  have htext := Reads.unended (hfree _ List.mem_cons_self) (UInt32.toNat_ofNat_of_lt' hsize).symm
  have hname := Reads.name row.senderName
  rw [Name.untilNul_eq (hfree _ (List.mem_cons_of_mem _ List.mem_cons_self))] at hname
  refine (Reads.u32 row.id).bind ((Reads.u32 row.sender).bind ?_)
  exact (Reads.count hsize).bind (htext.bind (hname.map _))

-- A list of items that take some bytes each.
theorem length_le_of_decode {α : Type} [Payload α] {P : α → Nat → Prop} {least : Nat}
    (hpos : 0 < least) (hitem : (Payload.decode : Decoder α).Sturdy P)
    (hleast : ∀ a n, P a n → least ≤ n) {taken rest : Bytes} {items : List α}
    (h : (Payload.decode : Decoder (List α)) (taken ++ rest) = (.ok items, rest)) :
    items.length ≤ (taken.length - 4) / least := by
  rcases (sturdy_list hitem hleast).yields _ items rest h with ⟨n, hlength, -, hsize, -⟩
  rw [List.length_append, Nat.add_right_cancel_iff] at hlength
  rw [Nat.le_div_iff_mul_le hpos, Nat.mul_comm]
  omega

/-- Every type of payload and both headers withstand all bytes. A name has at most 20 bytes;
    and a list that is read has no more channels or rows of messages than the bytes that were
    taken have room for behind the count, whatever the count says. What has been read is read
    again from what it is encoded as. Of rows of messages this is said unless a text in them
    has as many bytes as the largest number of four bytes: no number announces it together
    with its NUL, and so the name behind it is lost (`MessageRow.value_of_longest`). -/
theorem hostile_bytes_withstood :
    (Withstands RequestHeader ∧ Withstands ResponseHeader ∧ Withstands JoinRequest ∧
      Withstands OpenRequest ∧ Withstands SayRequest ∧ Withstands CreateRequest ∧
      Withstands Channel ∧ Withstands (List Channel) ∧ Withstands MessageRow ∧
      Withstands (List MessageRow) ∧ Withstands Membership ∧ Withstands Unit) ∧
    (∀ name : Name, name.text.utf8ByteSize ≤ 20) ∧
    (∀ (taken rest : Bytes) (channels : List Channel),
      Payload.decode (taken ++ rest) = (.ok channels, rest) →
        channels.length ≤ (taken.length - 4) / 28) ∧
    (∀ (taken rest : Bytes) (messages : List MessageRow),
      Payload.decode (taken ++ rest) = (.ok messages, rest) →
        messages.length ≤ (taken.length - 4) / 32) ∧
    (Restores RequestHeader ∧ Restores ResponseHeader ∧ Restores JoinRequest ∧
      Restores OpenRequest ∧ Restores SayRequest ∧ Restores CreateRequest ∧
      Restores Channel ∧ Restores (List Channel) ∧ Restores Membership ∧ Restores Unit) ∧
    (∀ (bytes rest : Bytes) (row : MessageRow), Payload.decode bytes = (.ok row, rest) →
      row.text.utf8ByteSize ≠ UInt32.size - 1 → Restored row) ∧
    ∀ (bytes rest : Bytes) (messages : List MessageRow),
      Payload.decode bytes = (.ok messages, rest) →
        (∀ row ∈ messages, row.text.utf8ByteSize ≠ UInt32.size - 1) → Restored messages := by
  refine ⟨⟨Guarded.withstands _, Guarded.withstands _, Guarded.withstands _,
    Guarded.withstands _, Guarded.withstands _, Guarded.withstands _, Guarded.withstands _,
    Guarded.withstands _, Guarded.withstands _, Guarded.withstands _, Guarded.withstands _,
    Guarded.withstands _⟩, fun name => name.fits, ?_, ?_, ?_, ?_, ?_⟩
  · intro taken rest channels
    exact length_le_of_decode (by decide) Channel.sturdy fun _ _ h => Nat.le_of_eq h.1.symm
  · intro taken rest messages
    exact length_le_of_decode (by decide) MessageRow.sturdy fun _ _ h => h.1
  · exact ⟨Brief.restores _, Brief.restores _, Brief.restores _, Brief.restores _,
      SayRequest.restores, Brief.restores _, Brief.restores _, Brief.restores _,
      Brief.restores _, Brief.restores _⟩
  · exact fun bytes rest row h htext => Guarded.restored h (MessageRow.texts_ne htext)
  · intro bytes rest messages h htext
    refine Guarded.restored h fun s hs => ?_
    rcases List.mem_flatMap.mp hs with ⟨row, hrow, hs⟩
    exact MessageRow.texts_ne (htext row hrow) s hs

/-- A greeting in channel 1, as it is sent. -/
def greeting : Bytes := [3, 0, 0, 0, 1, 0, 0, 0, 104, 105, 0]

/-- It is read in front of another byte; without its last byte one is missing; and it is read
    again from what it is encoded as. Two rows of messages are restored together, and the
    second of them alone. -/
theorem greeting_withstood :
    Payload.decode (greeting ++ [9]) = (.ok (SayRequest.mk 1 "hi"), [9]) ∧
    (∃ needed remaining left, remaining < needed ∧
      (Payload.decode : Decoder SayRequest) [3, 0, 0, 0, 1, 0, 0, 0, 104, 105] =
        (.error (.truncated needed remaining), left)) ∧
    Restored (SayRequest.mk 1 "hi") ∧
    ([] : List Channel).length ≤ (4 - 4) / 28 ∧
    (untilNul brokenOff).length ≤ ((Payload.encode brokenOff).length - 4) / 32 ∧
    Restored (untilNul brokenOff) ∧
    Restored (MessageRow.mk 2 2 ⟨"una", by decide⟩ "") := by
  have hfits : Fits (SayRequest.mk 1 "hi") := ⟨by decide, by decide +kernel⟩
  have hcut : untilNul (SayRequest.mk 1 "hi") = SayRequest.mk 1 "hi" := by decide +kernel
  have hencode : Payload.encode (SayRequest.mk 1 "hi") = greeting := by decide +kernel
  have hread := Legible.reads _ hfits [9]
  rw [hcut, hencode] at hread
  have hrows := Legible.reads brokenOff ⟨by decide +kernel, by decide +kernel⟩ [9]
  have hrow := Legible.reads (MessageRow.mk 2 2 ⟨"una", by decide⟩ "")
    ⟨by decide, by decide +kernel⟩ []
  have hwhole : untilNul (MessageRow.mk 2 2 ⟨"una", by decide⟩ "") =
      MessageRow.mk 2 2 ⟨"una", by decide⟩ "" := by decide +kernel
  rw [hwhole] at hrow
  rcases hostile_bytes_withstood with
    ⟨⟨-, -, -, -, hsay, -⟩, -, hchannels, hmessages, ⟨-, -, -, -, hsaid, -⟩, hone, hmany⟩
  rcases hsay.1 _ _ _ hread with ⟨taken, htaken, -, hmissing, -⟩
  obtain rfl := List.append_cancel_right htaken
  refine ⟨hread, hmissing 10 (by decide), hsaid _ _ _ hread, ?_, ?_, ?_, ?_⟩
  · exact hchannels [0, 0, 0, 0] [] [] rfl
  · exact hmessages _ _ _ hrows
  · exact hmany _ _ _ hrows (by decide +kernel)
  · exact hone _ _ _ hrow (by decide +kernel)

/-- A message of theo with the longest text that can be announced. -/
def longestRow : MessageRow := ⟨1, 1, ⟨"theo", by decide⟩, letters (UInt32.size - 1)⟩

/-- Such a message can be read, but it cannot be written so that it is read again: then nobody
    has said it. -/
theorem longestRow_loses_name :
    Payload.decode longestRow.unterminated = (.ok longestRow, []) ∧
      (Payload.decode : Decoder MessageRow).value (Payload.encode longestRow) =
        .ok { longestRow with senderName := .empty } ∧
      longestRow.senderName ≠ .empty := by
  have hsize : longestRow.text.utf8ByteSize = UInt32.size - 1 := utf8ByteSize_letters _
  have htext : '\x00' ∉ longestRow.text.toList := nul_notMem_letters _
  have hfree : NulFree longestRow :=
    List.forall_mem_cons.mpr ⟨htext, List.forall_mem_singleton.mpr (by decide)⟩
  have hread := MessageRow.reads_unterminated hfree (by rw [hsize]; decide) []
  have hlost := MessageRow.value_of_longest htext hsize []
  rw [List.append_nil] at hread hlost
  exact ⟨hread, hlost, by decide⟩

end ChatHost
