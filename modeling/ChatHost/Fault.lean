import ChatHost.Address.Printer

/-!
# Faults

What can be wrong with an operation on the records of a chat host: a record is
missing, a value breaks a rule, a record is already there, or the store failed.

A fault is a cause. Its wording, the stable code that monitoring goes by, and
the classes it belongs to are functions of the cause, so no two places word one
cause differently.

## Main definitions

* `Fault`: The causes.
* `Fault.message`: The wording of a cause.
* `Fault.code`: The stable code of a cause.
* `Fault.isMissing`, `Fault.isInvalid`, `Fault.isConflict`: The three classes
  that are somebody's mistake; the rest are failures of this host.
-/

namespace ChatHost

/-- Why an operation on the records of a host could not be done. -/
inductive Fault
  /-- No hosted server has this id. -/
  | unknownServer (id : UInt16)
  /-- No user goes by this id or name. -/
  | unknownUser (who : String)
  /-- No channel has this id. -/
  | unknownChannel (id : UInt32)
  /-- A value breaks a rule that is worded here. -/
  | invalid (reason : String)
  /-- A name has more bytes than a name may have. -/
  | nameTooLong (size limit : Nat)
  /-- A name that has to say something is blank. -/
  | emptyName
  /-- No role goes by this number. -/
  | unknownRole (role : String)
  /-- A hosted server with this id is already there. -/
  | serverExists (id : UInt16)
  /-- A user has already joined the server from this address. -/
  | alreadyJoined (address : Ip)
  /-- The store failed. -/
  | storage (reason : String)
  /-- This host could not go on. -/
  | internal (reason : String)
  deriving DecidableEq

namespace Fault

/-- The wording of a cause. -/
def message : Fault → String
  | unknownServer id => "Hosted server not found: " ++ id.toNat.repr
  | unknownUser who => "User not found: " ++ who
  | unknownChannel id => "Channel not found: " ++ id.toNat.repr
  | invalid reason => "Validation error: " ++ reason
  | nameTooLong size limit =>
    "Name too long: " ++ size.repr ++ " bytes (max " ++ limit.repr ++ ")"
  | emptyName => "Name must not be empty"
  | unknownRole role => "Invalid user role: " ++ role
  | serverExists id => "Hosted server already exists: " ++ id.toNat.repr
  | alreadyJoined address => "Address " ++ address.toText ++ " already joined this server"
  | storage reason => "Database error: " ++ reason
  | internal reason => "Internal error: " ++ reason

/-- The stable code of a cause. -/
def code : Fault → String
  | unknownServer _ => "UNKNOWN_SERVER"
  | unknownUser _ => "UNKNOWN_USER"
  | unknownChannel _ => "UNKNOWN_CHANNEL"
  | invalid _ => "VALIDATION_ERROR"
  | nameTooLong .. => "NAME_TOO_LONG"
  | emptyName => "EMPTY_NAME"
  | unknownRole _ => "INVALID_ROLE"
  | serverExists _ => "SERVER_ALREADY_EXISTS"
  | alreadyJoined _ => "ALREADY_JOINED"
  | storage _ => "DATABASE_ERROR"
  | internal _ => "INTERNAL_ERROR"

/-- The operation names a record that is not there. -/
def isMissing : Fault → Bool
  | unknownServer _ | unknownUser _ | unknownChannel _ => true
  | _ => false

/-- The operation carries a value that breaks a rule. -/
def isInvalid : Fault → Bool
  | invalid _ | nameTooLong .. | emptyName | unknownRole _ => true
  | _ => false

/-- The operation would make a record that is already there. -/
def isConflict : Fault → Bool
  | serverExists _ | alreadyJoined _ => true
  | _ => false

end Fault

end ChatHost
