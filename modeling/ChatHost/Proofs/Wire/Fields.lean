import ChatHost.Wire.Payload
import Mathlib.Data.List.TakeWhile
import Mathlib.Tactic.SplitIfs

/-!
# Reading What Was Written

The fields of a packet, one after the other.

A decoder reads a value from some bytes if it returns the value whatever comes
behind these bytes, and leaves exactly what comes behind (`Decoder.Reads`). So the
bytes of one field can be put in front of those of the next, and a packet is read
field by field (`Decoder.Reads.bind`). No byte of a field is looked at twice, and
none of the next field is needed to tell where it ends: its size is fixed, or it
has been announced.

Texts and names do not come back as they were. In UTF-8 the byte zero stands for
the character NUL and nowhere else, so what stands before the first zero of a
field is what stands before the first NUL of the text (`Text.untilNul`). Zeros that
fill a field up are cut off by this, and so is the rest of a text that has a NUL
in it.

## Main definitions

* `Text.untilNul`, `Name.untilNul`: What stands before the first NUL.
* `Decoder.Reads`: A decoder reads a value from some bytes and nothing further.
* `Name.Leads`: A name stands at the start of some bytes.
* `letters`: A text of a given length.

## Theorems

* `Decoder.beforeNul_utf8Encode`: Cutting bytes is cutting characters.
* `Decoder.Reads.bind`: Fields are read one after the other.
* `Decoder.Reads.text`, `Decoder.Reads.name`: A text is read up to its first NUL.
* `Decoder.Reads.rows`: Items are read in their order.
* `Decoder.text_ok`, `Decoder.name_ok`: What has been read has no NUL in it.
* `Decoder.u32_value`, `Decoder.name_value`: Which bytes a number or a name can be read from.
-/

namespace ChatHost

namespace Text

/-- What stands in a text before its first NUL. -/
def untilNul (s : String) : String := String.ofList (s.toList.takeWhile (· != '\x00'))

theorem untilNul_eq {s : String} (h : '\x00' ∉ s.toList) : untilNul s = s := by
  have hall : s.toList.takeWhile (· != '\x00') = s.toList := by
    rw [List.takeWhile_eq_self_iff]
    intro c hc
    rw [bne_iff_ne]
    exact fun hnul => h (hnul ▸ hc)
  rw [untilNul, hall, String.ofList_toList]

-- A text has the bytes of its characters.
theorem utf8Encode_ofList (chars : List Char) :
    utf8Encode (String.ofList chars) = chars.flatMap String.utf8EncodeChar := by
  rw [utf8Encode, String.toByteArray_ofList, List.utf8Encode, List.toList_data_toByteArray]

-- No character but NUL has a zero among its bytes.
theorem ne_zero_of_mem_utf8EncodeChar {c : Char} (hc : c ≠ '\x00') {b : UInt8}
    (hb : b ∈ String.utf8EncodeChar c) : b ≠ 0 := by
  have hpos : c.val.toNat ≠ 0 := fun hzero => hc (Char.ext (UInt32.toNat_inj.mp hzero))
  rintro rfl
  simp only [String.utf8EncodeChar] at hb
  split_ifs at hb
  all_goals
    simp only [List.mem_cons, List.not_mem_nil, or_false, ← UInt8.toNat_inj, UInt8.toNat_zero,
      UInt8.toNat_ofNat'] at hb
    omega

end Text

namespace Decoder

-- Zeros behind a text are cut off, and so is what is behind a NUL in it.
theorem beforeNul_flatMap (chars : List Char) {zeros : Bytes} (hzeros : ∀ b ∈ zeros, b = 0) :
    beforeNul (chars.flatMap String.utf8EncodeChar ++ zeros) =
      (chars.takeWhile (· != '\x00')).flatMap String.utf8EncodeChar := by
  induction chars with
  | nil =>
      rw [beforeNul, List.flatMap_nil, List.nil_append, List.takeWhile_nil, List.flatMap_nil,
        List.takeWhile_eq_nil_iff]
      intro hlength
      simp [hzeros _ (List.getElem_mem hlength)]
  | cons c rest ih =>
      rw [beforeNul] at ih ⊢
      rw [List.flatMap_cons, List.append_assoc, List.takeWhile_cons]
      by_cases hc : c = '\x00'
      · subst hc
        rfl
      · have hbytes : ∀ b ∈ String.utf8EncodeChar c, (b != 0) = true := fun b hb =>
          bne_iff_ne.mpr (Text.ne_zero_of_mem_utf8EncodeChar hc hb)
        rw [List.takeWhile_append_of_pos hbytes, ih, if_pos (bne_iff_ne.mpr hc), List.flatMap_cons]

/-- What stands before the first zero of a field that is filled up with zeros are the
    bytes of what stands before the first NUL of the text in it. -/
theorem beforeNul_utf8Encode (s : String) {zeros : Bytes} (hzeros : ∀ b ∈ zeros, b = 0) :
    beforeNul (Text.utf8Encode s ++ zeros) = Text.utf8Encode (Text.untilNul s) := by
  rw [Text.untilNul, Text.utf8Encode_ofList, ← beforeNul_flatMap _ hzeros, ← Text.utf8Encode_ofList,
    String.ofList_toList]

end Decoder

theorem Text.utf8ByteSize_untilNul_le (s : String) :
    (untilNul s).utf8ByteSize ≤ s.utf8ByteSize := by
  have hnone : ∀ b ∈ ([] : Bytes), b = 0 := fun _ hb => absurd hb List.not_mem_nil
  have hcut := Decoder.beforeNul_utf8Encode s hnone
  rw [List.append_nil] at hcut
  rw [← length_utf8Encode, ← length_utf8Encode, ← hcut]
  exact (List.takeWhile_sublist _).length_le

/-- What stands in a name before its first NUL. -/
def Name.untilNul (name : Name) : Name :=
  ⟨Text.untilNul name.text, Nat.le_trans (Text.utf8ByteSize_untilNul_le name.text) name.fits⟩

theorem Name.untilNul_eq {name : Name} (h : '\x00' ∉ name.text.toList) : name.untilNul = name := by
  rcases name with ⟨text, fits⟩
  simp only [untilNul, Text.untilNul_eq h]

theorem length_nameField (name : Name) : (nameField name).length = Name.capacity := by
  have hfits := name.fits
  rw [nameField, List.length_append, List.length_replicate, Text.length_utf8Encode, Name.size]
  omega

namespace Decoder

variable {α β : Type}

/-- A decoder reads a value from some bytes: it does so whatever comes behind them,
    and leaves exactly that. -/
def Reads (d : Decoder α) (bytes : Bytes) (a : α) : Prop :=
  ∀ rest, d (bytes ++ rest) = (.ok a, rest)

namespace Reads

theorem pure (a : α) : (Pure.pure a : Decoder α).Reads [] a := fun _ => rfl

/-- One field is read behind the other. -/
theorem bind {d : Decoder α} {f : α → Decoder β} {bytes bytes' : Bytes} {a : α} {b : β}
    (hd : d.Reads bytes a) (hf : (f a).Reads bytes' b) : (d >>= f).Reads (bytes ++ bytes') b := by
  intro rest
  have hfirst := hd (bytes' ++ rest)
  rw [← List.append_assoc] at hfirst
  have hbind : (d >>= f) = Decoder.bind d f := rfl
  rw [hbind]
  simp only [Decoder.bind, hfirst]
  exact hf rest

-- What is done behind the last field reads nothing.
theorem bind_nil {d : Decoder α} {f : α → Decoder β} {bytes : Bytes} {a : α} {b : β}
    (hd : d.Reads bytes a) (hf : (f a).Reads [] b) : (d >>= f).Reads bytes b := by
  have hbind := hd.bind hf
  rwa [List.append_nil] at hbind

theorem map {d : Decoder α} {bytes : Bytes} {a : α} (hd : d.Reads bytes a) (g : α → β) :
    (d >>= fun a => Pure.pure (g a)).Reads bytes (g a) :=
  hd.bind_nil (Reads.pure (g a))

theorem ofOption {e : DecodeError} {option : Option α} {a : α} (h : option = some a) :
    (Decoder.ofOption e option).Reads [] a := by
  rw [h]
  exact Reads.pure a

theorem take {bytes : Bytes} {n : Nat} (h : bytes.length = n) :
    (Decoder.take n).Reads bytes bytes := by
  intro rest
  have hhead : (bytes ++ rest).take n = bytes := List.take_left' h
  have htail : (bytes ++ rest).drop n = rest := List.drop_left' h
  rw [Decoder.take, hhead, htail]
  exact if_neg (by omega)

theorem skip {bytes : Bytes} {n : Nat} (h : bytes.length = n) : (Decoder.skip n).Reads bytes () :=
  (Reads.take h).map fun _ => ()

-- A number that fits its field, as whatever type of numbers it is read.
theorem number (width : Nat) {n : Nat} (fits : n < fieldRange width) (ofNat : Nat → α) :
    (Decoder.take width >>= fun field => Pure.pure (ofNat (leValue field))).Reads
      (leBytes width n) (ofNat n) := by
  have hread := (Reads.take (length_leBytes width n)).map fun field => ofNat (leValue field)
  rwa [leValue_leBytes width n fits] at hread

theorem u8 (n : UInt8) : Decoder.u8.Reads [n] n := by
  have hread := Reads.number 1 n.toNat_lt UInt8.ofNat
  rwa [leBytes, leBytes, UInt8.ofNat_toNat] at hread

theorem u16 (n : UInt16) : Decoder.u16.Reads (leBytes 2 n.toNat) n := by
  have hread := Reads.number 2 n.toNat_lt UInt16.ofNat
  rwa [UInt16.ofNat_toNat] at hread

-- A count that is not too large is announced as it is.
theorem count {n : Nat} (h : n < UInt32.size) :
    Decoder.u32.Reads (leBytes 4 n) (UInt32.ofNat n) :=
  Reads.number 4 h UInt32.ofNat

theorem u32 (n : UInt32) : Decoder.u32.Reads (leBytes 4 n.toNat) n := by
  have hread := Reads.count n.toNat_lt
  rwa [UInt32.ofNat_toNat] at hread

/-- A text in a field that is filled up with zeros is read up to its first NUL. -/
theorem text {s : String} {zeros : Bytes} (hzeros : ∀ b ∈ zeros, b = 0) {n : Nat}
    (h : (Text.utf8Encode s ++ zeros).length = n) :
    (Decoder.text n).Reads (Text.utf8Encode s ++ zeros) (Text.untilNul s) := by
  have hdecode : Text.utf8Decode? (beforeNul (Text.utf8Encode s ++ zeros)) =
      some (Text.untilNul s) := by
    rw [beforeNul_utf8Encode s hzeros, Text.utf8Decode?_utf8Encode]
  exact (Reads.take h).bind_nil (Reads.ofOption hdecode)

theorem name (name : Name) : Decoder.name.Reads (nameField name) name.untilNul := by
  have htext := Reads.text (s := name.text) (fun _ hb => List.eq_of_mem_replicate hb)
    (length_nameField name)
  have hname : (nameOfText (Text.untilNul name.text)).Reads [] name.untilNul := by
    have hfits : Name.ofText (Text.untilNul name.text) = .ok name.untilNul :=
      name.untilNul.ofText_text
    rw [nameOfText, hfits]
    exact Reads.pure name.untilNul
  exact htext.bind_nil hname

/-- Items that are read one by one are read one after the other. -/
theorem rows {d : Decoder α} {encode : β → Bytes} {value : β → α} {items : List β}
    (h : ∀ item ∈ items, d.Reads (encode item) (value item)) :
    (Decoder.rows d items.length).Reads (items.flatMap encode) (items.map value) := by
  induction items with
  | nil => exact Reads.pure []
  | cons item rest ih =>
      have hitem := h item List.mem_cons_self
      have hrest := ih fun other hother => h other (List.mem_cons_of_mem _ hother)
      exact hitem.bind (hrest.map (value item :: ·))

end Reads

-- What has been read in two parts: the first, and the second from what it left.
theorem bind_ok {d : Decoder α} {f : α → Decoder β} {bytes rest : Bytes} {b : β}
    (h : (d >>= f) bytes = (.ok b, rest)) :
    ∃ a mid, d bytes = (.ok a, mid) ∧ f a mid = (.ok b, rest) := by
  have hbind : (d >>= f) bytes = Decoder.bind d f bytes := rfl
  rw [hbind, Decoder.bind] at h
  split at h
  · next a mid hfirst => exact ⟨a, mid, hfirst, h⟩
  · simp at h

theorem take_ok {n : Nat} {bytes field rest : Bytes}
    (h : Decoder.take n bytes = (.ok field, rest)) :
    field = bytes.take n ∧ rest = bytes.drop n ∧ n ≤ bytes.length := by
  simp only [Decoder.take] at h
  split at h
  · simp at h
  · next hlong =>
    rcases Prod.mk.inj h with ⟨hfield, hrest⟩
    rw [List.length_take] at hlong
    exact ⟨(Except.ok.inj hfield).symm, hrest.symm, by omega⟩

theorem u32_ok {bytes rest : Bytes} {n : UInt32} (h : Decoder.u32 bytes = (.ok n, rest)) :
    rest = bytes.drop 4 ∧ 4 ≤ bytes.length := by
  rcases bind_ok h with ⟨field, mid, htake, hpure⟩
  rcases take_ok htake with ⟨-, hmid, hlong⟩
  rw [← (Prod.mk.inj hpure).2]
  exact ⟨hmid, hlong⟩

theorem ofOption_ok {e : DecodeError} {option : Option α} {a : α} {bytes rest : Bytes}
    (h : Decoder.ofOption e option bytes = (.ok a, rest)) : option = some a ∧ rest = bytes := by
  rcases option with _ | value
  · simp [Decoder.ofOption, Decoder.fail] at h
  · rcases Prod.mk.inj h with ⟨hvalue, hrest⟩
    exact ⟨congrArg some (Except.ok.inj hvalue), hrest.symm⟩

/-- What is decoded of a field up to its first zero has no NUL in it, and no more bytes than
    the field. -/
theorem of_decoded {field : Bytes} {s : String}
    (h : Text.utf8Decode? (beforeNul field) = some s) :
    '\x00' ∉ s.toList ∧ s.utf8ByteSize ≤ field.length := by
  have hfield : beforeNul field = Text.utf8Encode s := Text.eq_utf8Encode_of_utf8Decode? _ _ h
  refine ⟨fun hnul => ?_, ?_⟩
  · -- The character NUL would have left a zero, where there is none.
    have hzero : (0 : UInt8) ∈ beforeNul field := by
      rw [hfield, ← String.ofList_toList (s := s), Text.utf8Encode_ofList]
      exact List.mem_flatMap.mpr ⟨'\x00', hnul, by decide⟩
    have hne := List.mem_takeWhile_imp hzero
    simp at hne
  · rw [← Text.length_utf8Encode, ← hfield, beforeNul]
    exact (List.takeWhile_sublist _).length_le

/-- A text that has been read has no NUL in it, and no more bytes than there were. -/
theorem text_ok {n : Nat} {bytes rest : Bytes} {s : String}
    (h : Decoder.text n bytes = (.ok s, rest)) :
    '\x00' ∉ s.toList ∧ s.utf8ByteSize ≤ bytes.length := by
  rcases bind_ok h with ⟨field, mid, htake, hdecode⟩
  rcases of_decoded (ofOption_ok hdecode).1 with ⟨hnul, hsize⟩
  rw [(take_ok htake).1] at hsize
  exact ⟨hnul, Nat.le_trans hsize (List.take_sublist _ _).length_le⟩

-- A name that has been made of a text has that text.
theorem nameOfText_ok {s : String} {bytes rest : Bytes} {name : Name}
    (h : nameOfText s bytes = (.ok name, rest)) : name.text = s := by
  rw [nameOfText] at h
  rcases hfits : Name.ofText s with fault | name'
  · simp [hfits, Decoder.fail] at h
  · rw [hfits] at h
    rw [← Except.ok.inj (Prod.mk.inj h).1]
    rw [Name.ofText] at hfits
    split at hfits
    · rw [← Except.ok.inj hfits]
    · simp at hfits

theorem name_ok {bytes rest : Bytes} {name : Name} (h : Decoder.name bytes = (.ok name, rest)) :
    '\x00' ∉ name.text.toList := by
  rcases bind_ok h with ⟨s, mid, htext, hname⟩
  rw [nameOfText_ok hname]
  exact (text_ok htext).1

-- What is read of a packet leaves what is behind it.
theorem value_ok {d : Decoder α} {bytes : Bytes} {a : α} (h : d.value bytes = .ok a) :
    ∃ rest, d bytes = (.ok a, rest) :=
  ⟨(d bytes).2, Prod.ext h rfl⟩

-- What the first bytes of some are read as is what all of them are read as.
theorem Reads.value_take {d : Decoder α} {bytes : Bytes} {n : Nat} {a : α}
    (h : d.Reads (bytes.take n) a) : d.value bytes = .ok a := by
  have hread := h (bytes.drop n)
  rw [List.take_append_drop] at hread
  exact congrArg Prod.fst hread

-- A value can be read exactly if what it is made of can be.
theorem value_map_iff {d : Decoder α} {g : α → β} (hg : Function.Injective g) {bytes : Bytes}
    {a : α} :
    (d >>= fun a => Pure.pure (g a)).value bytes = .ok (g a) ↔ d.value bytes = .ok a := by
  have hbind : (d >>= fun a => Pure.pure (g a)) = Decoder.bind d fun a => Decoder.pure (g a) := rfl
  rw [hbind, value, value, Decoder.bind]
  rcases d bytes with ⟨error | b, rest⟩
  · exact ⟨fun h => absurd h (by simp), fun h => absurd h (by simp)⟩
  · constructor
    · exact fun h => congrArg Except.ok (hg (Except.ok.inj h))
    · exact fun h => congrArg (fun b => Except.ok (g b)) (Except.ok.inj h)

/-- A number of four bytes can be read exactly if there are four. -/
theorem u32_value {bytes : Bytes} {n : UInt32} :
    u32.value bytes = .ok n ↔ 4 ≤ bytes.length ∧ UInt32.ofNat (leValue (bytes.take 4)) = n := by
  constructor
  · intro h
    rcases value_ok h with ⟨rest, hread⟩
    rcases bind_ok hread with ⟨field, mid, htake, hpure⟩
    rcases take_ok htake with ⟨rfl, -, hlong⟩
    exact ⟨hlong, Except.ok.inj (congrArg Prod.fst hpure)⟩
  · rintro ⟨hlong, rfl⟩
    have hfield : (bytes.take 4).length = 4 := by
      rw [List.length_take]
      omega
    exact ((Reads.take hfield).map fun field => UInt32.ofNat (leValue field)).value_take

end Decoder

/-- A name stands at the start of some bytes: there are enough of them for its field, and
    what stands before the first zero of the field is its text. -/
def Name.Leads (name : Name) (bytes : Bytes) : Prop :=
  capacity ≤ bytes.length ∧
    Text.utf8Decode? (Decoder.beforeNul (bytes.take capacity)) = some name.text

theorem Name.Leads.unique {name name' : Name} {bytes : Bytes} (h : name.Leads bytes)
    (h' : name'.Leads bytes) : name' = name := by
  have htext := Option.some.inj (h'.2.symm.trans h.2)
  rcases name with ⟨text, fits⟩
  rcases name' with ⟨text', fits'⟩
  cases htext
  rfl

/-- A text that stands in the field of a name is never too long for one. -/
theorem Name.exists_leads {bytes : Bytes} :
    (∃ name : Name, name.Leads bytes) ↔ capacity ≤ bytes.length ∧
      ∃ text, Text.utf8Decode? (Decoder.beforeNul (bytes.take capacity)) = some text := by
  constructor
  · rintro ⟨name, hlong, htext⟩
    exact ⟨hlong, name.text, htext⟩
  · rintro ⟨hlong, text, htext⟩
    have hfits : text.utf8ByteSize ≤ capacity :=
      Nat.le_trans (Decoder.of_decoded htext).2 (List.length_take_le _ _)
    exact ⟨⟨text, hfits⟩, hlong, htext⟩

namespace Decoder

/-- A name can be read exactly if it stands there. -/
theorem name_value {bytes : Bytes} {name : Name} :
    Decoder.name.value bytes = .ok name ↔ name.Leads bytes := by
  constructor
  · intro h
    rcases value_ok h with ⟨rest, hread⟩
    rcases bind_ok hread with ⟨s, mid, htext, hname⟩
    rcases bind_ok htext with ⟨field, mid', htake, hdecode⟩
    rcases take_ok htake with ⟨rfl, -, hlong⟩
    rw [← nameOfText_ok hname] at hdecode
    exact ⟨hlong, (ofOption_ok hdecode).1⟩
  · rintro ⟨hlong, htext⟩
    have hfield : (bytes.take Name.capacity).length = Name.capacity := by
      rw [List.length_take]
      omega
    have hname : (nameOfText name.text).Reads [] name := by
      rw [nameOfText, name.ofText_text]
      exact Reads.pure name
    exact (((Reads.take hfield).bind_nil (Reads.ofOption htext)).bind_nil hname).value_take

end Decoder

/-- A text of some letters. -/
def letters (n : Nat) : String := String.ofList (List.replicate n 'a')

theorem utf8ByteSize_letters (n : Nat) : (letters n).utf8ByteSize = n := by
  rw [← Text.length_utf8Encode, letters, Text.utf8Encode_ofList, List.length_flatMap,
    List.map_replicate, List.sum_replicate_nat]
  exact Nat.mul_one n

theorem nul_notMem_letters (n : Nat) : '\x00' ∉ (letters n).toList := by
  rw [letters, String.toList_ofList]
  exact fun hnul => absurd (List.eq_of_mem_replicate hnul) (by decide)

end ChatHost
