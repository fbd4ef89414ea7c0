import ChatHost.Command.Error
import ChatHost.Config.DatabaseUrl
import ChatHost.Store.Backing

/-!
# The Disk

The databases in files, and where there is room for more.

A path that does not begin at the root begins at the program's own directory.
Detours are taken out of it before anything is looked up, so a directory that a
path only passes through on its way back need not exist. A file is made if it
is missing, but a directory is not, and a directory is no file.

## Main definitions

* `Disk`: The databases in files.
* `Disk.resolve`: The names on the way from the root to a file.
* `Disk.connect`: Opens the store that the settings name.
-/

namespace ChatHost

/-- The databases in files, each under the names on the way from the root to it. -/
structure Disk where
  /-- The program's own directory. -/
  home : List String
  /-- The directories where files can be made. -/
  directories : List (List String)
  databases : List (List String × TableStore) := []

namespace Disk

/-- A disk with nothing on it but the program's own directory and one for
    temporary files. -/
def bare : Disk where
  home := ["home", "chat"]
  directories := [["home", "chat"], ["tmp"]]

/-- One step on the way to a file. The root is above itself. -/
def step (names : List String) (name : String) : List String :=
  if name.isEmpty || name = "." then names
  else if name = ".." then names.dropLast
  else names ++ [name]

/-- The names on the way from the root to a file. -/
def resolve (disk : Disk) (path : String) : List String :=
  let start := match path.toList with
    | '/' :: _ => []
    | _ => disk.home
  ((Text.splitAt '/' path.toList).map String.ofList).foldl step start

/-- The most bytes in the name of a file. -/
def maxNameSize : Nat := 255

/-- Whether a database can be in a file. Its name must leave room for that of
    the journal, which adds a suffix. -/
def hasRoom (disk : Disk) (names : List String) : Bool :=
  match names.getLast? with
  | none => false
  | some name =>
    disk.directories.contains names.dropLast && !disk.directories.contains names &&
      decide (name.utf8ByteSize + "-journal".utf8ByteSize ≤ maxNameSize)

/-- The database in a file, if there is one. -/
def database? (disk : Disk) (path : String) : Option TableStore :=
  (disk.databases.find? fun entry => decide (entry.1 = disk.resolve path)).map Prod.snd

/-- The database in a file. One that is missing is made, and is empty. -/
def database (disk : Disk) (file : FileUri) (path : String) : Except DatabaseError TableStore :=
  match disk.database? path with
  | some store => .ok store
  | none =>
    if file.access.mayMake && disk.hasRoom (disk.resolve path) then .ok .empty
    else .error .cannotOpen

/-- Writes a database back to its file. -/
def save (disk : Disk) (path : String) (store : TableStore) : Disk :=
  let others := disk.databases.filter fun entry => decide (entry.1 ≠ disk.resolve path)
  { disk with databases := (disk.resolve path, store) :: others }

/-- What is to be done with a store that is no longer used. -/
def close (disk : Disk) (place : DatabasePlace) (store : Backing) : Disk :=
  match place, store with
  | .file path, .tables tables => disk.save path tables
  | _, _ => disk

/-- Opens the database at an address. The tables are put in place then, so it
    must be possible to write. -/
def openDatabase (disk : Disk) (address : String) :
    Except DatabaseError (DatabasePlace × Backing) := do
  let file ← (← DatabaseUrl.parse address).file
  let place ← file.place
  let store ← match place with
    | .file path => disk.database file path
    | .memory | .temporary => .ok .empty
  if file.writable then return (place, .tables store) else throw .readOnly

/-- Opens the store that the settings name, or one in memory. -/
def connect (disk : Disk) (config : HostConfig) (inMemory : Bool) :
    Except CommandError (DatabasePlace × Backing) :=
  if inMemory then .ok (.memory, .memory .empty)
  else (disk.openDatabase config.databaseUrl).mapError fun error => .database error.message

end Disk

end ChatHost
