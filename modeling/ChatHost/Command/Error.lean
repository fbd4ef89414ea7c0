import ChatHost.Config.Settings

/-!
# Command Errors

Why a command of the host failed: it is not set up, its store cannot be opened,
something it names is not there, an argument makes no sense, or an operation on
its records could not be done.

## Main definitions

* `CommandError`: The causes.
* `CommandError.message`, `CommandError.code`: Wording and stable code.
* `CommandError.isUserError`: Whether whoever gave the command is to blame.
-/

namespace ChatHost

/-- Why a command failed. -/
inductive CommandError
  | config (error : ConfigError)
  /-- The store cannot be opened. -/
  | database (reason : String)
  | notFound (what : String)
  | invalidInput (reason : String)
  | fault (fault : Fault)
  /-- Something else; the reason is for the log only. -/
  | internal (reason : String)

namespace CommandError

/-- The wording of a cause. -/
def message : CommandError → String
  | .config e => "Configuration error: " ++ e.message
  | .database reason => "Database error: " ++ reason
  | .notFound what => "Resource not found: " ++ what
  | .invalidInput reason => "Invalid input: " ++ reason
  | .fault f => f.message
  | .internal _ => "Internal error"

/-- The stable code of a cause. -/
def code : CommandError → String
  | .config _ => "CONFIG_ERROR"
  | .database _ => "DATABASE_ERROR"
  | .notFound _ => "NOT_FOUND"
  | .invalidInput _ => "INVALID_INPUT"
  | .fault f => f.code
  | .internal _ => "INTERNAL_ERROR"

/-- Whether whoever gave the command is to blame. -/
def isUserError : CommandError → Bool
  | .notFound _ | .invalidInput _ => true
  | .fault f => f.isMissing || f.isInvalid || f.isConflict
  | .config _ | .database _ | .internal _ => false

end CommandError

end ChatHost
