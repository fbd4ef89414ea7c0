import ChatHost.Bytes
import ChatHost.Link.Error

/-!
# Frames

What one datagram carries: a packet, or a numbered piece of one.

A frame says whether its packet wants an answer, is one, or neither; which
request it belongs to; and which piece of how many it is. A packet that fits
into one datagram goes whole, as piece zero of one. A longer one is cut into
pieces of equal length, the last of which may be shorter, and no packet may
have more than `Frame.maxFragments` of them.

## Main definitions

* `Frame`: A frame.
* `Frame.encode`, `Frame.decode`: The datagram of a frame, and back.
* `slices`: A byte string cut into pieces.
* `Frame.split`: The frames of a packet.
-/

namespace ChatHost

/-- Whether a packet wants an answer, is one, or neither. -/
inductive FrameKind
  | message
  | request
  | response
  deriving DecidableEq

namespace FrameKind

/-- The number of a kind in a frame. -/
def code : FrameKind → UInt8
  | message => 0
  | request => 1
  | response => 2

/-- The kind with a given number. -/
def ofCode? (n : UInt8) : Option FrameKind :=
  if n = 0 then some message
  else if n = 1 then some request
  else if n = 2 then some response
  else none

@[simp] theorem ofCode?_code (kind : FrameKind) : ofCode? kind.code = some kind := by
  cases kind <;> decide

end FrameKind

/-- A packet or a piece of one. -/
structure Frame where
  kind : FrameKind
  /-- Which request a request and its answer belong to. -/
  correlation : UInt32
  /-- Which piece this is, from zero. -/
  fragment : UInt16 := 0
  /-- How many pieces there are. -/
  fragments : UInt16 := 1
  payload : Bytes
  deriving DecidableEq

namespace Frame

/-- The bytes in front of the payload. -/
def headerSize : Nat := 9

/-- The largest datagram that is taken in. -/
def maxDatagram : Nat := 65536

/-- The payload of one piece. -/
def maxPayload : Nat := 32768

/-- The most pieces that a packet may be cut into. -/
def maxFragments : Nat := 512

/-- The largest packet. -/
def maxPacket : Nat := maxFragments * maxPayload

/-- A frame that carries a whole packet. -/
def whole (kind : FrameKind) (correlation : UInt32) (payload : Bytes) : Frame :=
  { kind, correlation, payload }

/-- Whether a frame is one piece of several. -/
def isFragment (frame : Frame) : Bool := decide (1 < frame.fragments)

/-- The datagram of a frame. -/
def encode (frame : Frame) : Bytes :=
  frame.kind.code :: leBytes 4 frame.correlation.toNat ++ leBytes 2 frame.fragment.toNat ++
    leBytes 2 frame.fragments.toNat ++ frame.payload

/-- Why a datagram is no frame. -/
inductive Defect
  /-- It ends inside the header. -/
  | short (size : Nat)
  /-- No kind has this number. -/
  | unknownKind (code : UInt8)
  /-- There is no such piece, or there are too many pieces. -/
  | noSuchFragment (fragment fragments : UInt16)
  deriving DecidableEq

/-- The wording of a defect. -/
def Defect.reason : Defect → String
  | short size => size.repr ++ " byte datagram is shorter than the frame header"
  | unknownKind code => "unknown frame kind " ++ code.toNat.repr
  | noSuchFragment fragment fragments =>
    "fragment " ++ fragment.toNat.repr ++ " of " ++ fragments.toNat.repr

/-- Whether a piece of this number can be one of so many. -/
def validFragment (fragment fragments : UInt16) : Bool :=
  fragments != 0 && decide (fragment < fragments) && decide (fragments.toNat ≤ maxFragments)

/-- The frame in a datagram. The kind is judged before the pieces. -/
def decode : Bytes → Except Defect Frame
  | k :: c0 :: c1 :: c2 :: c3 :: i0 :: i1 :: n0 :: n1 :: payload =>
    match FrameKind.ofCode? k with
    | none => .error (.unknownKind k)
    | some kind =>
      let correlation := UInt32.ofNat (leValue [c0, c1, c2, c3])
      let fragment := UInt16.ofNat (leValue [i0, i1])
      let fragments := UInt16.ofNat (leValue [n0, n1])
      if validFragment fragment fragments then
        .ok { kind, correlation, fragment, fragments, payload }
      else .error (.noSuchFragment fragment fragments)
  | bs => .error (.short bs.length)

/-- A byte string in `count` pieces of `size` bytes; the last piece is what is
    left then. -/
def slices (size : Nat) : (count : Nat) → Bytes → List Bytes
  | 0, _ => []
  | count + 1, bs => bs.take size :: slices size count (bs.drop size)

/-- How many pieces a packet of some length has. -/
def pieces (length : Nat) : Nat := (length + maxPayload - 1) / maxPayload

/-- The frames of a packet, in order, unless it is too large. -/
def split (kind : FrameKind) (correlation : UInt32) (payload : Bytes) :
    Except LinkError (List Frame) :=
  let length := payload.length
  if length ≤ maxPayload then .ok [whole kind correlation payload]
  else
    let count := pieces length
    if maxFragments < count then .error (.tooLarge length maxPacket)
    else
      .ok <| (slices maxPayload count payload).mapIdx fun i piece =>
        { kind, correlation, fragment := UInt16.ofNat i, fragments := UInt16.ofNat count,
          payload := piece }

end Frame

end ChatHost
