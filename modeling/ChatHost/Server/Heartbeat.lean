import ChatHost.Server.World
import ChatHost.Wire.Packet

/-!
# Heartbeats

How a server finds out who has left without a word.

At every tick the users who are online and have been silent for too long are
asked whether they are there. The asking takes time, and meanwhile the server
goes on handling packets. So a sweep has two halves: a snapshot of the silent
users, and, once every question has been answered or given up, the application
of the results to whatever presence is then.

News win over results. A result counts only for a user who is still online and
has not been heard from since the snapshot.

## Main definitions

* `heartbeatPacket`: The question.
* `isUnchanged`: Whether a user is as in the snapshot.
* `applyHeartbeats`: The second half of a sweep.
-/

namespace ChatHost

/-- Asks a client whether it is there. -/
def heartbeatPacket : Bytes := requestPacket .heartbeat ()

/-- Whether a user is still online and has not been heard from since. -/
def isUnchanged (t : Tracker) (user : StaleUser) : Bool :=
  match t.get? user.id with
  | some current => current.online && decide (current.lastContact = user.lastContact)
  | none => false

/-- Applies one result: who answered was heard from now, who did not is
    offline. -/
def applyHeartbeat (now : Instant) (t : Tracker) (user : StaleUser) (alive : Bool) : Tracker :=
  if !isUnchanged t user then t
  else if alive then t.markOnline user.id user.address now
  else t.markOffline user.id

/-- Applies the results of a sweep, and counts the users that it takes offline. -/
def applyHeartbeats (now : Instant) : List (StaleUser × Bool) → Tracker → Tracker × Nat
  | [], t => (t, 0)
  | (user, alive) :: rest, t =>
    let demoted := if isUnchanged t user && !alive then 1 else 0
    let (t, more) := applyHeartbeats now rest (applyHeartbeat now t user alive)
    (t, demoted + more)

end ChatHost
