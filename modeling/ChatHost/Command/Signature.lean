import ChatHost.Record
import ChatHost.Text.Numeral

/-!
# Signatures of Commands

Which commands there are, and what may be given to each.

## Main definitions

* `Signature`: A command and what may be given to it.
* `Signature.all`: Every command that does something.
-/

namespace ChatHost

/-- A value that is given to a command: what a text must be to be one. -/
structure Parameter where
  accepts : String → Bool

/-- An option of a command. -/
structure CommandOption where
  name : String
  /-- The value that must be given with it, if any. -/
  parameter : Option Parameter := none

/-- A command and what may be given to it. -/
structure Signature where
  name : String
  options : List CommandOption := []
  /-- The values that must be given, in their order. -/
  parameters : List Parameter := []

namespace Parameter

/-- An id of a server: a number of 16 bits, whatever its sign. -/
def serverId? (s : String) : Option ServerId :=
  (Text.signed? 0 65535 s).map fun n => UInt16.ofNat n.toNat

/-- A count: a number of 64 bits. -/
def count? (s : String) : Option Nat := Text.unsigned? 0xFFFFFFFFFFFFFFFF s

/-- The id of a server. -/
def server : Parameter := ⟨fun s => (serverId? s).isSome⟩

/-- The name of a user, which may be any text. -/
def username : Parameter := ⟨fun _ => true⟩

/-- A role. -/
def role : Parameter := ⟨fun s => (Role.ofText? s).isSome⟩

/-- How many servers to add. -/
def count : Parameter := ⟨fun s => (count? s).isSome⟩

end Parameter

namespace Signature

/-- Running all servers. -/
def serve : Signature where
  name := "serve"
  options := [{ name := "memory" }, { name := "create", parameter := some .count }]

/-- Adding a server. -/
def createServer : Signature where
  name := "create-server"

/-- Listing the servers. -/
def listServers : Signature where
  name := "list-servers"

/-- Giving a role to a user. -/
def setRole : Signature where
  name := "set-role"
  parameters := [.server, .username, .role]

/-- Listing users. -/
def listUsers : Signature where
  name := "list-users"
  options := [{ name := "role", parameter := some .role }]
  parameters := [.server]

/-- Every command that does something. -/
def all : List Signature := [serve, createServer, listServers, setRole, listUsers]

/-- The option of a name. -/
def option? (signature : Signature) (name : String) : Option CommandOption :=
  signature.options.find? fun option => decide (option.name = name)

end Signature

end ChatHost
