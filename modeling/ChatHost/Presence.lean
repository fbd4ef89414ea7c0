import ChatHost.Link.Reassembly
import ChatHost.Record

/-!
# Presence

Who of the users of a hosted server is there right now.

The store knows who may come; the tracker knows, of the same users, where each
was last heard from and when, who is online, and which channel each one is
looking at. It lives as long as the server runs.

A user is found by the address that a packet comes from: the user last heard
from at exactly that address, or else the user who joined from that IP address
under whatever port. If several did, the one with the lowest id is meant.

Users stand in ascending order of their ids, so that what is listed, found and
sent does not depend on the order in which they came.

## Main definitions

* `TrackedUser`: What is known of one user.
* `Tracker`: What is known of all of them.
* `Tracker.find?`: The user behind an address.
* `Tracker.recipients`: Where new messages of a channel go.
* `Tracker.stale`: Who has been silent for too long.
-/

namespace ChatHost

/-- What is known of one user of a running server. -/
structure TrackedUser where
  id : UserId
  username : Name
  ip : Ip
  /-- Where the user was last heard from. -/
  address : Option SocketAddress
  role : Role
  online : Bool
  /-- The channel that the user is looking at. -/
  channel : Option ChannelId
  lastContact : Instant
  deriving DecidableEq

namespace TrackedUser

/-- A user of the store, offline and not heard from. -/
def ofRecord (record : UserRecord) (now : Instant) : TrackedUser :=
  { id := record.id, username := record.username, ip := record.ip, address := none,
    role := record.role, online := false, channel := none, lastContact := now }

/-- Whether a user is online and looking at a channel. -/
def isViewing (user : TrackedUser) (channel : ChannelId) : Bool :=
  user.online && decide (user.channel = some channel)

end TrackedUser

/-- A user who is online and has been silent for too long, as last known. -/
structure StaleUser where
  id : UserId
  address : SocketAddress
  lastContact : Instant
  deriving DecidableEq

/-- What is known of the users of a running server, in ascending order of ids. -/
structure Tracker where
  users : List TrackedUser := []
  deriving DecidableEq

namespace Tracker

/-- Nobody is known. -/
def empty : Tracker := ⟨[]⟩

/-- Puts a user into a list that ascends by id, in place of one with this id. -/
def insertUser (user : TrackedUser) : List TrackedUser → List TrackedUser
  | [] => [user]
  | other :: rest =>
    if user.id < other.id then user :: other :: rest
    else if user.id = other.id then user :: rest
    else other :: insertUser user rest

/-- Tracks a user, in place of one with the same id. -/
def insert (t : Tracker) (user : TrackedUser) : Tracker := ⟨insertUser user t.users⟩

/-- Tracks exactly the given users, all offline. Of two with one id the later
    is kept. -/
def load (records : List UserRecord) (now : Instant) : Tracker :=
  records.foldl (fun t record => t.insert (.ofRecord record now)) empty

/-- Tracks a user who has just joined. They are heard from, but stay offline
    until they open a channel. -/
def join (t : Tracker) (record : UserRecord) (address : SocketAddress) (now : Instant) :
    Tracker :=
  t.insert { TrackedUser.ofRecord record now with address := some address }

/-- The user with a given id. -/
def get? (t : Tracker) (id : UserId) : Option TrackedUser :=
  t.users.find? fun user => decide (user.id = id)

/-- Whether a user is tracked. -/
def contains (t : Tracker) (id : UserId) : Bool := (t.get? id).isSome

/-- The user behind an address. -/
def find? (t : Tracker) (address : SocketAddress) : Option TrackedUser :=
  match t.users.find? fun user => decide (user.address = some address) with
  | some user => some user
  | none => t.users.find? fun user => decide (user.ip = address.ip)

/-- Changes what is known of one user. -/
def modify (t : Tracker) (id : UserId) (f : TrackedUser → TrackedUser) : Tracker :=
  ⟨t.users.map fun user => if user.id = id then f user else user⟩

/-- A user is online, and was heard from just now at this address. -/
def markOnline (t : Tracker) (id : UserId) (address : SocketAddress) (now : Instant) :
    Tracker :=
  t.modify id fun user =>
    { user with online := true, address := some address, lastContact := now }

/-- A user is offline; where they were and what they looked at is forgotten. -/
def markOffline (t : Tracker) (id : UserId) : Tracker :=
  t.modify id fun user => { user with online := false, address := none, channel := none }

/-- A user was heard from just now at this address, whatever they are. -/
def touch (t : Tracker) (id : UserId) (address : SocketAddress) (now : Instant) : Tracker :=
  t.modify id fun user => { user with address := some address, lastContact := now }

/-- A user looks at a channel. -/
def setChannel (t : Tracker) (id : UserId) (channel : ChannelId) : Tracker :=
  t.modify id fun user => { user with channel := some channel }

/-- Whether a user of this name is tracked. -/
def hasName (t : Tracker) (username : String) : Bool :=
  t.users.any fun user => decide (user.username.text = username)

/-- Every user of this name has a role. -/
def setRole (t : Tracker) (username : String) (role : Role) : Tracker :=
  ⟨t.users.map fun user =>
    if user.username.text = username then { user with role := role } else user⟩

/-- Where new messages of a channel go: to everyone looking at it. -/
def recipients (t : Tracker) (channel : ChannelId) : List SocketAddress :=
  (t.users.filter (·.isViewing channel)).filterMap (·.address)

/-- Whether a user is online and has been silent for at least `threshold`. -/
def isStale (threshold : Nat) (now : Instant) (user : TrackedUser) : Bool :=
  user.online && decide (threshold ≤ now - user.lastContact)

/-- Who is online and has been silent for at least `threshold`. -/
def stale (t : Tracker) (threshold : Nat) (now : Instant) : List StaleUser :=
  (t.users.filter (isStale threshold now)).filterMap fun user =>
    user.address.map fun address => ⟨user.id, address, user.lastContact⟩

/-- How many users are online. -/
def onlineCount (t : Tracker) : Nat := (t.users.filter (·.online)).length

/-- How many users are tracked. -/
def size (t : Tracker) : Nat := t.users.length

/-- Whether nobody is tracked. -/
def isEmpty (t : Tracker) : Bool := t.users.isEmpty

end Tracker

end ChatHost
