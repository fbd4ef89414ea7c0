import ChatHost.Proofs.Wire.Fields
import ChatHost.Wire.Packet

/-!
# Packets There and Back

Every packet is read back, whatever it carries and whatever comes behind it.

What is read is what was written, up to the first NUL of each name and text, and
what comes behind the packet is left. The bounds are those of the numbers that
announce a length or a count: a text and the NUL that ends it, and the items of a
list, must be as many as four bytes can say.

Both the bounds and the cut are about the texts of a payload and the counts of its
lists, wherever they stand in it (`Contents`). A list is read back if its items
are (`Legible`), so the law for lists of rows of texts comes from that for rows by
the induction over the items that is in `Decoder.Reads.rows`.

## Main definitions

* `Contents`: The texts and counts in a payload, and the payload up to its NULs.
* `Contents.Fits`, `Contents.NulFree`: Numbers can announce it; no text has a NUL.
* `Legible`: Payloads that are read back.
* `requestDecoder`: Reads a whole request.
* `ReadsBack`: Packets with payloads of a type are read back.

## Theorems

* `RequestHeader.decode_iff`: Which packets have a header that can be read.
* `Legible.readsBack`: Packets are read back if their payloads are.
* `packets_read_back`: Packets with any payload are.
-/

namespace ChatHost

/-- The texts and counts in a payload, and the payload up to its NULs. -/
class Contents (α : Type) where
  /-- The names and texts that stand in a payload. -/
  texts : α → List String
  /-- How many items each of its lists has. -/
  counts : α → List Nat
  /-- The payload with every name and text cut before its first NUL. -/
  untilNul : α → α

namespace Contents

variable {α : Type} [Contents α]

/-- The lengths and counts of a payload are numbers that four bytes can say. A text is
    one byte longer than it is, by the NUL that ends it. -/
structure Fits (a : α) : Prop where
  counts : ∀ n ∈ counts a, n < UInt32.size
  texts : ∀ s ∈ texts a, s.utf8ByteSize < UInt32.size - 1

/-- No name and no text of a payload has a NUL in it. -/
def NulFree (a : α) : Prop := ∀ s ∈ texts a, '\x00' ∉ s.toList

end Contents

open Contents

instance : Contents JoinRequest where
  texts request := [request.username.text]
  counts _ := []
  untilNul request := ⟨request.username.untilNul⟩

instance : Contents OpenRequest where
  texts _ := []
  counts _ := []
  untilNul request := request

instance : Contents SayRequest where
  texts request := [request.text]
  counts _ := []
  untilNul request := { request with text := Text.untilNul request.text }

instance : Contents CreateRequest where
  texts request := [request.name.text]
  counts _ := []
  untilNul request := ⟨request.name.untilNul⟩

instance : Contents Channel where
  texts channel := [channel.name.text]
  counts _ := []
  untilNul channel := { channel with name := channel.name.untilNul }

instance : Contents MessageRow where
  texts row := [row.text, row.senderName.text]
  counts _ := []
  untilNul row :=
    { row with text := Text.untilNul row.text, senderName := row.senderName.untilNul }

instance {α : Type} [Contents α] : Contents (List α) where
  texts items := items.flatMap texts
  counts items := items.length :: items.flatMap counts
  untilNul items := items.map untilNul

instance : Contents Membership where
  texts _ := []
  counts _ := []
  untilNul membership := membership

instance : Contents Unit where
  texts _ := []
  counts _ := []
  untilNul _ := ()

-- An item of a list that fits does so itself.
theorem Contents.Fits.of_mem {α : Type} [Contents α] {items : List α} (h : Fits items) {item : α}
    (hitem : item ∈ items) : Fits item :=
  ⟨fun n hn => h.counts n (List.mem_cons_of_mem _ (List.mem_flatMap.mpr ⟨item, hitem, hn⟩)),
    fun s hs => h.texts s (List.mem_flatMap.mpr ⟨item, hitem, hs⟩)⟩

theorem Contents.NulFree.of_mem {α : Type} [Contents α] {items : List α} (h : NulFree items)
    {item : α} (hitem : item ∈ items) : NulFree item :=
  fun s hs => h s (List.mem_flatMap.mpr ⟨item, hitem, hs⟩)

-- Lengths are announced as numbers of four bytes, the right ones if they fit.
theorem textLength_lt (s : String) : textLength s < UInt32.size :=
  Nat.lt_of_le_of_lt (Nat.min_le_right _ _) (by decide)

theorem length_textField (s : String) : (textField s).length = s.utf8ByteSize + 1 := by
  rw [textField, List.length_append, Text.length_utf8Encode, List.length_singleton]

theorem Decoder.Reads.textField {s : String} (h : s.utf8ByteSize < UInt32.size - 1) :
    (Decoder.text (UInt32.ofNat (textLength s)).toNat).Reads (textField s) (Text.untilNul s) := by
  have hcount : s.utf8ByteSize + 1 ≤ maxCount := h
  have hlength : (ChatHost.textField s).length = (UInt32.ofNat (textLength s)).toNat := by
    rw [UInt32.toNat_ofNat_of_lt' (textLength_lt s), length_textField, textLength, wireCount,
      Nat.min_eq_left hcount]
  exact Reads.text (fun _ hb => List.mem_singleton.mp hb) hlength

/-- Payloads of a type are read back up to their NULs, and without NULs that is all of
    them. -/
class Legible (α : Type) [Payload α] [Contents α] : Prop where
  reads (a : α) : Fits a → (Payload.decode : Decoder α).Reads (Payload.encode a) (untilNul a)
  untilNul_eq (a : α) : NulFree a → untilNul a = a

instance : Legible JoinRequest where
  reads _ _ := (Decoder.Reads.name _).map _
  untilNul_eq _ h := congrArg JoinRequest.mk (Name.untilNul_eq (h _ List.mem_cons_self))

instance : Legible OpenRequest where
  reads _ _ := (Decoder.Reads.u32 _).map _
  untilNul_eq _ _ := rfl

instance : Legible SayRequest where
  reads request h := by
    have htext : request.text.utf8ByteSize < UInt32.size - 1 := h.texts _ List.mem_cons_self
    have hencode : Payload.encode request = leBytes 4 (textLength request.text) ++
        (leBytes 4 request.channel.toNat ++ textField request.text) := List.append_assoc _ _ _
    rw [hencode]
    refine (Decoder.Reads.count (textLength_lt _)).bind ?_
    refine (Decoder.Reads.u32 _).bind ?_
    exact (Decoder.Reads.textField htext).map _
  untilNul_eq request h :=
    congrArg (SayRequest.mk request.channel) (Text.untilNul_eq (h _ List.mem_cons_self))

instance : Legible CreateRequest where
  reads _ _ := (Decoder.Reads.name _).map _
  untilNul_eq _ h := congrArg CreateRequest.mk (Name.untilNul_eq (h _ List.mem_cons_self))

instance : Legible Channel where
  reads channel _ := by
    have hencode : Payload.encode channel = leBytes 4 channel.id.toNat ++
        (nameField channel.name ++ (leBytes 2 channel.server.toNat ++ [0, 0])) := by
      rw [← List.append_assoc, ← List.append_assoc]
      rfl
    have hpadding : (Decoder.skip 2).Reads [0, 0] () := Decoder.Reads.skip rfl
    rw [hencode]
    refine (Decoder.Reads.u32 _).bind ?_
    refine (Decoder.Reads.name _).bind ?_
    refine (Decoder.Reads.u16 _).bind ?_
    exact hpadding.map _
  untilNul_eq channel h :=
    congrArg (Channel.mk channel.id · channel.server) (Name.untilNul_eq (h _ List.mem_cons_self))

instance : Legible MessageRow where
  reads row h := by
    have htext : row.text.utf8ByteSize < UInt32.size - 1 := h.texts _ List.mem_cons_self
    have hencode : Payload.encode row = leBytes 4 row.id.toNat ++ (leBytes 4 row.sender.toNat ++
        (leBytes 4 (textLength row.text) ++ (textField row.text ++ nameField row.senderName))) := by
      rw [← List.append_assoc, ← List.append_assoc, ← List.append_assoc]
      rfl
    rw [hencode]
    refine (Decoder.Reads.u32 _).bind ?_
    refine (Decoder.Reads.u32 _).bind ?_
    refine (Decoder.Reads.count (textLength_lt _)).bind ?_
    refine (Decoder.Reads.textField htext).bind ?_
    exact (Decoder.Reads.name _).map _
  untilNul_eq row h := by
    have htext : Text.untilNul row.text = row.text := Text.untilNul_eq (h _ List.mem_cons_self)
    have hname : row.senderName.untilNul = row.senderName :=
      Name.untilNul_eq (h _ (List.mem_cons_of_mem _ List.mem_cons_self))
    exact congrArg₂ (MessageRow.mk row.id row.sender) hname htext

instance {α : Type} [Payload α] [Contents α] [Legible α] : Legible (List α) where
  reads items h := by
    have hlength : items.length < UInt32.size := h.counts _ List.mem_cons_self
    have hcount : wireCount items.length = items.length :=
      Nat.min_eq_left (Nat.le_of_lt_succ hlength)
    have hencode : Payload.encode items = leBytes 4 items.length ++
        items.flatMap Payload.encode := by
      rw [← hcount]
      rfl
    rw [hencode]
    refine (Decoder.Reads.count hlength).bind ?_
    rw [UInt32.toNat_ofNat_of_lt' hlength]
    exact Decoder.Reads.rows fun item hitem => Legible.reads item (h.of_mem hitem)
  untilNul_eq items h := by
    have hitems : ∀ item ∈ items, untilNul item = id item :=
      fun item hitem => Legible.untilNul_eq item (h.of_mem hitem)
    exact (List.map_congr_left hitems).trans (List.map_id items)

instance : Legible Membership where
  reads membership _ := by
    rcases membership with ⟨admin⟩
    cases admin with
    | false => exact (Decoder.Reads.u8 0).map _
    | true => exact (Decoder.Reads.u8 1).map _
  untilNul_eq _ _ := rfl

instance : Legible Unit where
  reads _ _ := Decoder.Reads.pure ()
  untilNul_eq _ _ := rfl

theorem RequestHeader.reads (header : RequestHeader) :
    RequestHeader.decode.Reads header.encode header := by
  refine (Decoder.Reads.u32 _).bind_nil ?_
  exact (Decoder.Reads.ofOption (RequestKind.ofCode?_code header.kind)).map _

theorem RequestKind.code_of_ofCode? {n : UInt32} {kind : RequestKind} (h : ofCode? n = some kind) :
    kind.code = n := by
  have hcode := List.find?_some h
  exact of_decide_eq_true hcode

/-- A header can be read exactly if it is there, and what is left is what comes behind. -/
theorem RequestHeader.decode_iff {packet body : Bytes} {header : RequestHeader} :
    RequestHeader.decode packet = (.ok header, body) ↔ packet = header.encode ++ body := by
  constructor
  · intro h
    rcases Decoder.bind_ok h with ⟨code, rest, hcode, hkind⟩
    rcases Decoder.bind_ok hcode with ⟨field, rest', htake, hnumber⟩
    rcases Decoder.take_ok htake with ⟨rfl, rfl, hlong⟩
    obtain ⟨rfl, rfl⟩ : UInt32.ofNat (leValue (packet.take 4)) = code ∧ packet.drop 4 = rest := by
      rcases Prod.mk.inj hnumber with ⟨hvalue, hrest⟩
      exact ⟨Except.ok.inj hvalue, hrest⟩
    rcases Decoder.bind_ok hkind with ⟨kind, rest, hoption, hheader⟩
    rcases Decoder.ofOption_ok hoption with ⟨hfound, rfl⟩
    obtain ⟨rfl, rfl⟩ : ⟨kind⟩ = header ∧ packet.drop 4 = body := by
      rcases Prod.mk.inj hheader with ⟨hvalue, hrest⟩
      exact ⟨Except.ok.inj hvalue, hrest⟩
    -- The kind that was found has the number that stands there.
    have hlength : (packet.take 4).length = 4 := by
      rw [List.length_take]
      omega
    have hsmall := leValue_lt (packet.take 4)
    rw [hlength] at hsmall
    have hnum : kind.code.toNat = leValue (packet.take 4) := by
      rw [RequestKind.code_of_ofCode? hfound, UInt32.toNat_ofNat']
      exact Nat.mod_eq_of_lt hsmall
    have hbytes := leBytes_leValue (packet.take 4)
    rw [hlength] at hbytes
    rw [encode, hnum, hbytes, List.take_append_drop]
  · rintro rfl
    exact header.reads body

theorem ResponseHeader.reads (header : ResponseHeader) :
    ResponseHeader.decode.Reads header.encode header := by
  refine (Decoder.Reads.u32 _).bind ?_
  refine (Decoder.Reads.u32 _).bind_nil ?_
  refine (Decoder.Reads.ofOption (RequestKind.ofCode?_code header.kind)).bind_nil ?_
  exact (Decoder.Reads.ofOption (Status.ofCode?_code header.status)).map _

/-- Reads the header and the payload of a request. -/
def requestDecoder (α : Type) [Payload α] : Decoder (RequestHeader × α) := do
  let header ← RequestHeader.decode
  let payload ← Payload.decode
  return (header, payload)

/-- Packets with payloads of a type are read back: the header as it was, the payload up
    to its NULs, and what comes behind is left. Payloads without NULs are as they were. -/
def ReadsBack (α : Type) [Payload α] [Contents α] : Prop :=
  ∀ a : α, Fits a →
    (∀ (kind : RequestKind) (suffix : Bytes),
      requestDecoder α (requestPacket kind a ++ suffix) = (.ok (⟨kind⟩, untilNul a), suffix)) ∧
    (∀ (kind : RequestKind) (status : Status) (suffix : Bytes),
      responseDecoder α (responsePacket kind status a ++ suffix) =
        (.ok (⟨kind, status⟩, untilNul a), suffix)) ∧
    (NulFree a → untilNul a = a)

theorem Legible.readsBack (α : Type) [Payload α] [Contents α] [Legible α] : ReadsBack α := by
  intro a hfits
  have hpayload := Legible.reads a hfits
  refine ⟨fun kind => ?_, fun kind status => ?_, Legible.untilNul_eq a⟩
  · exact (RequestHeader.reads ⟨kind⟩).bind (hpayload.map _)
  · exact (ResponseHeader.reads ⟨kind, status⟩).bind (hpayload.map _)

-- The same for an answer with nothing behind it.
theorem Legible.decodeResponse_eq {α : Type} [Payload α] [Contents α] [Legible α] {a : α}
    (h : Fits a) (kind : RequestKind) (status : Status) :
    decodeResponse α (responsePacket kind status a) = .ok (⟨kind, status⟩, untilNul a) := by
  have hread := (Legible.readsBack α a h).2.1 kind status []
  rw [List.append_nil] at hread
  rw [decodeResponse, Decoder.value, hread]

/-- Every packet of the format is read back, under every header and in front of
    anything. -/
theorem packets_read_back :
    ReadsBack JoinRequest ∧ ReadsBack OpenRequest ∧ ReadsBack SayRequest ∧
      ReadsBack CreateRequest ∧ ReadsBack Channel ∧ ReadsBack (List Channel) ∧
      ReadsBack MessageRow ∧ ReadsBack (List MessageRow) ∧ ReadsBack Membership ∧
      ReadsBack Unit :=
  ⟨Legible.readsBack _, Legible.readsBack _, Legible.readsBack _, Legible.readsBack _,
    Legible.readsBack _, Legible.readsBack _, Legible.readsBack _, Legible.readsBack _,
    Legible.readsBack _, Legible.readsBack _⟩

/-- Two rows, the first with a NUL in its text, the second without a text. -/
def brokenOff : List MessageRow :=
  [⟨1, 2, ⟨"una", by decide⟩, "up\x00down"⟩, ⟨2, 2, ⟨"una", by decide⟩, ""⟩]

theorem broken_off_read_back :
    Fits brokenOff ∧
      responseDecoder (List MessageRow) (responsePacket .push .success brokenOff ++ [7]) =
        (.ok (⟨.push, .success⟩,
          [⟨1, 2, ⟨"una", by decide⟩, "up"⟩, ⟨2, 2, ⟨"una", by decide⟩, ""⟩]), [7]) := by
  have hfits : Fits brokenOff := ⟨by decide +kernel, by decide +kernel⟩
  have hcut : untilNul brokenOff =
      [⟨1, 2, ⟨"una", by decide⟩, "up"⟩, ⟨2, 2, ⟨"una", by decide⟩, ""⟩] := by
    decide +kernel
  rcases packets_read_back with ⟨-, -, -, -, -, -, -, hrows, -, -⟩
  have hread := (hrows brokenOff hfits).2.1 .push .success [7]
  rw [hcut] at hread
  exact ⟨hfits, hread⟩

end ChatHost
