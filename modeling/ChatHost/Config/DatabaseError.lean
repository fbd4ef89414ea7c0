import ChatHost.Text.Malformed
import ChatHost.Text.Quoted

/-!
# Database Errors

Why a database cannot be opened. The address in the settings may be wrong, the
file that it names may be described in terms that are not known, and the place
may be one where no tables can be put.

## Main definitions

* `DatabaseError`: Why a database cannot be opened.
* `DatabaseError.message`: The wording of a cause.
-/

namespace ChatHost

/-- Why a database cannot be opened. -/
inductive DatabaseError
  /-- The path is not a text. -/
  | malformedPath (fault : Text.Utf8Fault)
  | unknownOption (option : String)
  | unknownValue (option value : String)
  /-- The path has a character that no path has. -/
  | nulInPath
  /-- The file is on another machine. -/
  | foreignHost (host : String)
  /-- Nothing is known of such a way to share what has been read. -/
  | unknownCache (mode : String)
  /-- Nothing is known of such a right to a file. -/
  | unknownAccess (mode : String)
  /-- There is more asked for than the address allows. -/
  | accessRefused (mode : String)
  /-- There is no such way to use files. -/
  | unknownLayer (name : String)
  /-- There is no file, nor can one be made. -/
  | cannotOpen
  | readOnly
  deriving DecidableEq

/-- The wording of a cause: of the address, of the connection or of the
    database, which gives a code with it. -/
def DatabaseError.message : DatabaseError → String
  | malformedPath fault => "error with configuration: " ++ fault.message
  | unknownOption option =>
    "error with configuration: unknown query parameter `" ++ option ++
      "` while parsing connection URL"
  | unknownValue option value =>
    "error with configuration: unknown value " ++ Text.quote value ++ " for `" ++ option ++ "`"
  | nulInPath =>
    "error communicating with database: filename passed to SQLite must not contain nul bytes"
  | foreignHost host =>
    "error returned from database: (code: 1) invalid uri authority: " ++ host
  | unknownCache mode =>
    "error returned from database: (code: 1) no such cache mode: " ++ mode
  | unknownAccess mode =>
    "error returned from database: (code: 1) no such access mode: " ++ mode
  | accessRefused mode =>
    "error returned from database: (code: 3) access mode not allowed: " ++ mode
  | unknownLayer name => "error returned from database: (code: 1) no such vfs: " ++ name
  | cannotOpen => "error returned from database: (code: 14) unable to open database file"
  | readOnly => "error returned from database: (code: 8) attempt to write a readonly database"

end ChatHost
