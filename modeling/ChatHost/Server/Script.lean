import ChatHost.Address.Basic
import ChatHost.Bytes

/-!
# Heartbeat Scripts

How a peer takes a heartbeat, and what comes to pass while several are out.

A script says whether the peer answers, stays silent or cannot be asked, and
what else happens before that: packets of any peer, and time going by. All the
heartbeats of a sweep are out at once, so their scripts unfold side by side.
Each has its turn up to its next wait, then the next one has, and rounds of
such turns follow one another until every script is at its end. The result is
one list of happenings, which `happenings` gives; what the happenings do is
said elsewhere.

## Main definitions

* `HeartbeatScript`: How a peer takes a heartbeat.
* `turns`: A script cut after each of its waits.
* `rounds`: The k-th turn of every script that has one.
* `happenings`: What comes to pass while the heartbeats are out, in order.
-/

namespace ChatHost

/-- How the asking of a peer ends. -/
inductive HeartbeatOutcome
  | answered
  | timedOut
  | unsendable
  deriving DecidableEq

/-- Whether a peer counts as there. -/
def HeartbeatOutcome.alive : HeartbeatOutcome → Bool
  | answered => true
  | timedOut | unsendable => false

/-- What happens while a heartbeat is out. -/
inductive Interlude
  | wait (ms : Nat)
  | packet (peer : SocketAddress) (payload : Bytes)

/-- How a peer takes a heartbeat. -/
structure HeartbeatScript where
  outcome : HeartbeatOutcome := .answered
  during : List Interlude := []

namespace Interlude

/-- Whether a turn ends here. Packets are dealt with on the spot; only time
    going by gives the others a turn. -/
def isWait : Interlude → Bool
  | wait _ => true
  | packet _ _ => false

/-- A script cut after each of its waits. -/
def turns : List Interlude → List (List Interlude)
  | [] => []
  | first :: rest =>
    if first.isWait then [first] :: turns rest
    else
      match turns rest with
      | turn :: later => (first :: turn) :: later
      | [] => [[first]]

end Interlude

/-- The k-th element of every list that has one, for each k. -/
def rounds {α : Type} (lists : List (List α)) : List (List α) :=
  let longest := lists.foldl (fun n list => max n list.length) 0
  (List.range longest).map fun k => lists.filterMap (·[k]?)

/-- The most heartbeats that are looked after in the order in which they went
    out. -/
def maxOrderly : Nat := 30

/-- Every other list turned round. -/
def zigzag {α : Type} (lists : List (List α)) : List (List α) :=
  lists.mapIdx fun k list => if k % 2 = 0 then list else list.reverse

/-- What comes to pass while heartbeats with these scripts are out, in order.
    The rounds of many heartbeats go back and forth. -/
def happenings (scripts : List HeartbeatScript) : List Interlude :=
  let all := rounds (scripts.map fun script => Interlude.turns script.during)
  let ordered := if scripts.length ≤ maxOrderly then all else zigzag all
  ordered.flatten.flatten

end ChatHost
