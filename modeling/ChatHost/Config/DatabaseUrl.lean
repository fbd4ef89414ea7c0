import ChatHost.Config.FileUri

/-!
# Database Addresses

Which database the address in the settings means.

Behind the scheme stands a place: memory, nothing for a temporary database, or
the path of a file. Behind a question mark stand options. An option that is not
known, or a value that an option does not have, makes the address unusable. A
scheme of another database is not recognised as one and so is part of a path.

## Main definitions

* `DatabaseUrl`: What an address says.
* `DatabaseUrl.parse`: Reads an address.
* `DatabaseUrl.file`: The file that an address means.
-/

namespace ChatHost

/-- What an address says. -/
structure DatabaseUrl where
  /-- The name of a file; empty if the address has none. -/
  path : String
  inMemory : Bool := false
  readOnly : Bool := false
  /-- Whether the file is said never to change. -/
  immutable : Bool := false
  /-- How files are to be used, by name. -/
  layer : Option String := none
  deriving DecidableEq

namespace DatabaseUrl

/-- The path that an address gives, which must be a text. -/
def readPath (cs : List Char) : Except DatabaseError String :=
  match Text.utf8Fault? (Text.percentBytes cs) with
  | some fault => .error (.malformedPath fault)
  | none => .ok ((Text.utf8Decode? (Text.percentBytes cs)).getD "")

/-- A part of an option. A plus sign stands for a blank, and what is not a text
    is mended. -/
def readPart (cs : List Char) : String :=
  Text.utf8Mend (Text.percentBytes (cs.map fun c => if c = '+' then ' ' else c))

/-- Drops a text from the front as often as it stands there. -/
def dropRepeated (front : List Char) (cs : List Char) : List Char :=
  if _h : 0 < front.length ∧ front.length ≤ cs.length ∧ cs.take front.length = front then
    dropRepeated front (cs.drop front.length)
  else cs
termination_by cs.length
decreasing_by
  simp only [List.length_drop]
  omega

/-- What an option adds to an address, unless it or its value is not known. -/
def applyOption (url : DatabaseUrl) (option value : String) :
    Except DatabaseError DatabaseUrl :=
  if option = "mode" then
    if value = "ro" then .ok { url with readOnly := true }
    else if value = "rw" || value = "rwc" then .ok url
    else if value = "memory" then .ok { url with inMemory := true }
    else .error (.unknownValue option value)
  else if option = "cache" then
    if value = "private" || value = "shared" then .ok url
    else .error (.unknownValue option value)
  else if option = "immutable" then
    if value = "true" || value = "1" then .ok { url with immutable := true }
    else if value = "false" || value = "0" then .ok { url with immutable := false }
    else .error (.unknownValue option value)
  else if option = "vfs" then .ok { url with layer := some value }
  else .error (.unknownOption option)

/-- An address with all options of a query, from the left. -/
def applyQuery (url : DatabaseUrl) (query : List Char) : Except DatabaseError DatabaseUrl :=
  ((Text.splitAt '&' query).filter (!·.isEmpty)).foldlM
    (fun url part =>
      url.applyOption (readPart (part.takeWhile (· != '=')))
        (readPart ((part.dropWhile (· != '=')).drop 1)))
    url

/-- Reads an address. -/
def parse (s : String) : Except DatabaseError DatabaseUrl := do
  let cs := dropRepeated "sqlite:".toList (dropRepeated "sqlite://".toList s.toList)
  let path := cs.takeWhile (· != '?')
  let query := (cs.dropWhile (· != '?')).drop 1
  if path = ":memory:".toList then
    applyQuery { path := "", inMemory := true } query
  else
    applyQuery { path := ← readPath path } query

/-- The name of a layer as it is passed on. Blanks become plus signs, and it
    ends at a NUL. -/
def layerName (layer : String) : String :=
  FileUri.beforeNul (String.ofList (layer.toList.map fun c => if c = ' ' then '+' else c))

/-- What may be done to the file. -/
def access (url : DatabaseUrl) : FileAccess where
  mayWrite := !url.readOnly
  mayMake := !url.readOnly
  inMemory := url.inMemory

/-- The file that an address means. A name with nothing said about it may be a
    URI. If something is said, it is passed on in a URI, in which the name is
    that of a path. -/
def file (url : DatabaseUrl) : Except DatabaseError FileUri :=
  if url.immutable || url.layer.isSome then
    .ok {
      path := FileUri.beforeNul url.path
      access := url.access
      immutable := some url.immutable
      layer := url.layer.map layerName }
  else if url.path.toList.any (·.toNat = 0) then .error .nulInPath
  else FileUri.parse url.access url.path

end DatabaseUrl

end ChatHost
