import ChatHost.Name
import ChatHost.Text.Utf8

/-!
# Decoders

Reading a packet from its first byte on.

A decoder takes the bytes that are left and returns a value or an error,
together with the bytes that are left then. It says what is left also when it
fails, because the two kinds of failure differ in that: a field that is cut off
takes nothing, while a text or name that is not UTF-8 has been taken.

Texts and names end at their first NUL, whatever stands behind it in the field.

## Main definitions

* `DecodeError`: Why bytes are no packet.
* `Decoder`: A reader of packets.
* `Decoder.take`: The next bytes, the step that all others are made of.
* `Decoder.rows`: A given number of items, one after the other.
-/

namespace ChatHost

/-- Why bytes are not the packet that they should be. -/
inductive DecodeError
  /-- A field needs more bytes than are left. -/
  | truncated (needed remaining : Nat)
  /-- No kind of request has this number. -/
  | unknownKind (code : UInt32)
  /-- No status has this number. -/
  | unknownStatus (code : UInt32)
  /-- A text is not UTF-8. -/
  | invalidText
  /-- A name is longer than a name may be. -/
  | nameTooLong (size limit : Nat)
  deriving DecidableEq

/-- The wording of an error. -/
def DecodeError.message : DecodeError → String
  | truncated needed remaining =>
    "Truncated packet: needed " ++ needed.repr ++ " bytes, " ++ remaining.repr ++ " remaining"
  | unknownKind code => "Unknown request type: " ++ code.toNat.repr
  | unknownStatus code => "Unknown status: " ++ code.toNat.repr
  | invalidText => "Invalid UTF-8 in text field"
  | nameTooLong size limit => (Fault.nameTooLong size limit).message

/-- A reader of packets: from the bytes that are left to a value or an error,
    and the bytes that are left then. -/
def Decoder (α : Type) : Type := Bytes → Except DecodeError α × Bytes

namespace Decoder

variable {α β : Type}

/-- Reads nothing. -/
def pure (a : α) : Decoder α := fun bs => (.ok a, bs)

/-- Fails without reading. -/
def fail (e : DecodeError) : Decoder α := fun bs => (.error e, bs)

/-- Reads one thing and then another; the first failure ends it. -/
def bind (d : Decoder α) (f : α → Decoder β) : Decoder β := fun bs =>
  match d bs with
  | (.ok a, rest) => f a rest
  | (.error e, rest) => (.error e, rest)

instance : Monad Decoder where
  pure := pure
  bind := bind

/-- The value of an option, or an error if there is none. -/
def ofOption (e : DecodeError) : Option α → Decoder α
  | some a => pure a
  | none => fail e

/-- The next `n` bytes. If fewer are left, none are taken. -/
def take (n : Nat) : Decoder Bytes := fun bs =>
  let head := bs.take n
  if head.length < n then (.error (.truncated n bs.length), bs)
  else (.ok head, bs.drop n)

/-- All bytes that are left. They are looked at and not taken. -/
def rest : Decoder Bytes := fun bs => (.ok bs, bs)

/-- Passes over `n` bytes. -/
def skip (n : Nat) : Decoder Unit := do
  let _ ← take n

/-- A number of one byte. -/
def u8 : Decoder UInt8 := do
  let field ← take 1
  return UInt8.ofNat (leValue field)

/-- A number of two bytes. -/
def u16 : Decoder UInt16 := do
  let field ← take 2
  return UInt16.ofNat (leValue field)

/-- A number of four bytes. -/
def u32 : Decoder UInt32 := do
  let field ← take 4
  return UInt32.ofNat (leValue field)

/-- What stands in a text field before its first NUL. -/
def beforeNul (field : Bytes) : Bytes := field.takeWhile (· != 0)

/-- A text in a field of `n` bytes. -/
def text (n : Nat) : Decoder String := do
  let field ← take n
  ofOption .invalidText (Text.utf8Decode? (beforeNul field))

/-- A text as a name. -/
def nameOfText (s : String) : Decoder Name :=
  match Name.ofText s with
  | .ok name => pure name
  | .error _ => fail (.nameTooLong s.utf8ByteSize Name.capacity)

/-- A name in its field of fixed size. -/
def name : Decoder Name := do
  let s ← text Name.capacity
  nameOfText s

/-- Exactly `n` items, one after the other. A number of items that the bytes
    cannot hold ends at the first item that is cut off. -/
def rows (item : Decoder α) : Nat → Decoder (List α)
  | 0 => pure []
  | n + 1 => bind item fun a => bind (rows item n) fun as => pure (a :: as)

/-- The value that a whole packet starts with. -/
def value (d : Decoder α) (bs : Bytes) : Except DecodeError α := (d bs).1

end Decoder

end ChatHost
