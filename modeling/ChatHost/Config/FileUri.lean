import ChatHost.Config.DatabaseError
import ChatHost.Text.Percent
import ChatHost.Text.Split

/-!
# File URIs

A file as the database is told of it: a path, and what is said about its use.

A name that begins with `file:` is a URI. It may name this machine as the one
that has the file, and behind a question mark it may have options of its own.
They say how files are to be used, what may be done to this one, and that it
never changes; what is not known is left alone. A number sign ends it all. Any
other name is a path, as it stands.

## Main definitions

* `FileAccess`: What may be done to a file.
* `FileUri`: A file and what is said about it.
* `FileUri.parse`: Reads a name.
* `FileUri.place`: The place that is meant.
* `FileUri.writable`: Whether tables can be put there.
-/

namespace ChatHost

/-- Where a database is. -/
inductive DatabasePlace
  | memory
  | temporary
  | file (path : String)
  deriving DecidableEq

/-- What may be done to a file. -/
structure FileAccess where
  mayWrite : Bool := true
  /-- Whether it is made if it is missing. -/
  mayMake : Bool := true
  /-- Whether there is to be no file, but memory in its place. -/
  inMemory : Bool := false
  deriving DecidableEq

namespace FileAccess

/-- What a word allows. -/
def ofWord? (word : String) : Option FileAccess :=
  if word = "ro" then some { mayWrite := false, mayMake := false }
  else if word = "rw" then some { mayMake := false }
  else if word = "rwc" then some {}
  else if word = "memory" then some { inMemory := true }
  else none

/-- Whether one may change to another access. With files one can only give up
    rights; memory, and whoever is in memory, may be anything. -/
def allows (limit wanted : FileAccess) : Bool :=
  limit.inMemory || wanted.inMemory ||
    ((limit.mayWrite || !wanted.mayWrite) && (limit.mayMake || !wanted.mayMake))

end FileAccess

/-- A file and what is said about it. -/
structure FileUri where
  path : String
  access : FileAccess := {}
  /-- Whether it is said never to change. The first saying counts. -/
  immutable : Option Bool := none
  /-- How files are to be used, by name. The last saying counts. -/
  layer : Option String := none
  deriving DecidableEq

namespace FileUri

/-- The number that a text begins with, in decimal or behind `0x` in
    hexadecimal digits; zero if it is too large for a word. -/
def leadingNumber (cs : List Char) : Nat :=
  let value (base : Nat) (digits : List Char) : Nat :=
    digits.foldl (fun n c => n * base + ((Text.hexValue? c.toUInt8).getD 0).toNat) 0
  let isHex (c : Char) : Bool := c.toNat < 128 && (Text.hexValue? c.toUInt8).isSome
  let number :=
    match cs with
    | '0' :: x :: c :: rest =>
      if (x = 'x' || x = 'X') && isHex c then value 16 ((c :: rest).takeWhile isHex)
      else value 10 (cs.takeWhile Char.isDigit)
    | _ => value 10 (cs.takeWhile Char.isDigit)
  if number < 2147483648 then number else 0

/-- Whether a value says yes. Of a number the low byte counts. -/
def isYes (value : String) : Bool :=
  match value.toList with
  | [] => false
  | c :: rest =>
    if c.isDigit then decide (leadingNumber (c :: rest) % 256 ≠ 0)
    else ["on", "yes", "true"].contains (String.ofList ((c :: rest).map Char.toLower))

/-- What an option adds, unless its value is not known. -/
def applyOption (uri : FileUri) (option value : String) : Except DatabaseError FileUri :=
  if option = "vfs" then .ok { uri with layer := some value }
  else if option = "cache" then
    if value = "shared" || value = "private" then .ok uri else .error (.unknownCache value)
  else if option = "mode" then
    match FileAccess.ofWord? value with
    | none => .error (.unknownAccess value)
    | some access =>
      if uri.access.allows access then .ok { uri with access } else .error (.accessRefused value)
  else if option = "immutable" then
    .ok { uri with immutable := some (uri.immutable.getD (isYes value)) }
  else .ok uri

/-- A URI with all options, from the left. -/
def applyOptions (uri : FileUri) (options : List (String × String)) :
    Except DatabaseError FileUri :=
  options.foldlM (fun uri (option, value) => uri.applyOption option value) uri

/-- A text up to its first NUL. -/
def beforeNul (s : String) : String :=
  String.ofList (s.toList.takeWhile (·.toNat ≠ 0))

/-- What a part of a URI stands for. It ends at a NUL that is spelled in it. -/
def readPart (cs : List Char) : String :=
  beforeNul (Text.utf8Mend (Text.percentBytes cs))

/-- The options of a query; those without a name are left out. -/
def readOptions (query : List Char) : List (String × String) :=
  let options := (Text.splitAt '&' query).map fun part =>
    (readPart (part.takeWhile (· != '=')), readPart ((part.dropWhile (· != '=')).drop 1))
  options.filter fun (option, _) => !option.isEmpty

/-- What comes behind the machine in a URI. Only this one can be meant. -/
def dropHost (cs : List Char) : Except DatabaseError (List Char) :=
  match cs with
  | '/' :: '/' :: rest =>
    let host := String.ofList (rest.takeWhile (· != '/'))
    if host.isEmpty || host = "localhost" then .ok (rest.dropWhile (· != '/'))
    else .error (.foreignHost host)
  | _ => .ok cs

/-- What the name of a URI begins with. -/
def scheme : List Char := "file:".toList

/-- Reads a name, given what may be done to the file at most. -/
def parse (access : FileAccess) (name : String) : Except DatabaseError FileUri := do
  let cs := name.toList
  if cs.take scheme.length = scheme then
    let body := (← dropHost (cs.drop scheme.length)).takeWhile (· != '#')
    applyOptions { path := readPart (body.takeWhile (· != '?')), access }
      (readOptions ((body.dropWhile (· != '?')).drop 1))
  else return { path := name, access }

/-- The ways to use files, by name. They differ in how others are locked out;
    under the last one, files are in memory. -/
def layers : List String := ["unix", "unix-none", "unix-dotfile", "unix-excl", "memdb"]

/-- Whether a file is meant, if only one in memory. -/
def isNamed (uri : FileUri) : Bool :=
  !uri.access.inMemory && decide (uri.path ≠ ":memory:") && !uri.path.isEmpty

/-- The place that is meant. -/
def place (uri : FileUri) : Except DatabaseError DatabasePlace :=
  match uri.layer.filter (!layers.contains ·) with
  | some name => .error (.unknownLayer name)
  | none =>
    if uri.isNamed then
      .ok (if uri.layer = some "memdb" then .memory else .file uri.path)
    else .ok (if uri.path.isEmpty && !uri.access.inMemory then .temporary else .memory)

/-- Whether tables can be put there. -/
def writable (uri : FileUri) : Bool :=
  uri.access.mayWrite && !(uri.isNamed && uri.immutable.getD false)

end FileUri

end ChatHost
