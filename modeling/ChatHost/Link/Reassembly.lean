import ChatHost.Address.Basic
import ChatHost.Link.Frame

/-!
# Reassembly

Puts the pieces of packets together as they arrive, in any order.

The pieces of a packet share their sender, their kind and their correlation.
Until all are there they wait in a partial packet, one slot for each. A partial
packet is given up when it has waited too long for its last piece, and so that
nobody can fill the memory of the host, only so many may wait at a time: a
piece of yet another packet is dropped then.

The number of slots is fixed by the first piece. A piece that counts otherwise
belongs to a new packet that uses the correlation again, so the old one is
given up and the waiting starts over.

## Main definitions

* `Partial`: The pieces of a packet that have arrived.
* `Reassembler`: All packets that wait for pieces.
* `Reassembler.accept`: Takes in a frame and hands out a packet if it is whole.
-/

namespace ChatHost

/-- An instant, in milliseconds since some beginning. -/
abbrev Instant := Nat

/-- What the pieces of one packet have in common. -/
structure PartialKey where
  peer : SocketAddress
  kind : FrameKind
  correlation : UInt32
  deriving DecidableEq

/-- The pieces of a packet that have arrived. -/
structure Partial where
  slots : List (Option Bytes)
  /-- How many slots are filled. -/
  received : Nat
  /-- When the first piece arrived. -/
  started : Instant

namespace Partial

/-- A packet of `count` pieces of which none has arrived. -/
def fresh (count : Nat) (now : Instant) : Partial :=
  ⟨List.replicate count none, 0, now⟩

/-- The packet with a piece put into its slot; a piece that is already there
    stays. -/
def put (part : Partial) (index : Nat) (piece : Bytes) : Partial :=
  match part.slots[index]? with
  | some none =>
    { part with slots := part.slots.set index (some piece), received := part.received + 1 }
  | _ => part

/-- Whether every piece has arrived. -/
def isWhole (part : Partial) : Bool := part.received == part.slots.length

/-- The pieces that have arrived, one after the other. -/
def payload (part : Partial) : Bytes := (part.slots.filterMap id).flatten

/-- Whether a packet has not waited too long. The clock may go backwards, and
    then no time has passed. -/
def isFresh (timeout : Nat) (now : Instant) (part : Partial) : Bool :=
  decide (now - part.started < timeout)

end Partial

/-- All packets that wait for pieces. -/
structure Reassembler where
  /-- How long a packet may wait. -/
  timeout : Nat
  partials : List (PartialKey × Partial) := []

namespace Reassembler

/-- How many packets may wait at a time. -/
def maxPartials : Nat := 256

/-- How many packets wait. -/
def pending (r : Reassembler) : Nat := r.partials.length

/-- The pieces that have arrived of some packet. -/
def find? (r : Reassembler) (key : PartialKey) : Option Partial :=
  (r.partials.find? fun entry => decide (entry.1 = key)).map (·.2)

/-- Gives up the packets that have waited too long. -/
def expire (r : Reassembler) (now : Instant) : Reassembler :=
  { r with partials := r.partials.filter fun entry => entry.2.isFresh r.timeout now }

/-- Forgets a packet. -/
def erase (r : Reassembler) (key : PartialKey) : Reassembler :=
  { r with partials := r.partials.filter fun entry => decide (entry.1 ≠ key) }

/-- Keeps the pieces of a packet, in place of those that were kept before. -/
def insert (r : Reassembler) (key : PartialKey) (part : Partial) : Reassembler :=
  let others := r.erase key
  { others with partials := others.partials ++ [(key, part)] }

/-- The waiting packet that a piece goes into: the one with its key if that
    has as many slots as the piece says, else a new one. -/
def target (old : Option Partial) (count : Nat) (now : Instant) : Partial :=
  match old with
  | some part => if part.slots.length = count then part else .fresh count now
  | none => .fresh count now

/-- Takes in a frame. A whole frame is handed out as it is; a piece is handed
    out as a whole frame once it is the last that was missing. -/
def accept (r : Reassembler) (peer : SocketAddress) (frame : Frame) (now : Instant) :
    Option Frame × Reassembler :=
  if !frame.isFragment then (some frame, r)
  else if frame.fragments ≤ frame.fragment then (none, r)
  else
    let r := r.expire now
    let key : PartialKey := ⟨peer, frame.kind, frame.correlation⟩
    let old := r.find? key
    -- Only new packets are turned away; those that wait already go on.
    if old.isNone && decide (maxPartials ≤ r.pending) then (none, r)
    else
      let part := (target old frame.fragments.toNat now).put frame.fragment.toNat frame.payload
      if part.isWhole then
        (some (.whole frame.kind frame.correlation part.payload), r.erase key)
      else (none, r.insert key part)

end Reassembler

end ChatHost
