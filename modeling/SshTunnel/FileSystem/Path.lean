import SshTunnel.FileSystem.Basic
import SshTunnel.Text.Split

/-!
# Paths

`find` follows a path, and the links on it, to a node. `readBytes` and `readText` give the contents
of the file at a path, and `connect` what listens at the socket there.
-/

namespace SshTunnel.FileSystem

/-- How many links may be followed on the way along a path. -/
def maxLinks : Nat := 40

def maxNameLength : Nat := 255

def maxPathLength : Nat := 4095

/-- The directory that a path starts from, if not from the given one, and the names on it. A path
that ends with a slash wants a directory at its end. -/
def steps (start : List String) (path : String) : List String × List String :=
  let names := ((Text.splitEvery (· = '/') path.toList).filter (· ≠ [])).map String.ofList
  let names := if path.toList.getLast? = some '/' then names ++ ["."] else names
  (if path.toList.head? = some '/' then [] else start, names)

/-- A path as the names on the way from the root, as far as there are no links on it. -/
def plainPath (start : List String) (path : String) : List String :=
  let (start, names) := steps start path
  names.foldl (fun place name =>
    if name = "." then place else if name = ".." then place.dropLast else place ++ [name]) start

def walk (fs : FileSystem) (links : Nat) (place : List String) (names : List String) :
    Except OsError (List String) :=
  match names with
  | [] => .ok place
  | name :: rest => do
      if fs.node? place ≠ some .directory then throw .notADirectory
      if name = "." then walk fs links place rest
      else if name = ".." then walk fs links place.dropLast rest
      else if maxNameLength < name.utf8ByteSize then throw .nameTooLong
      else
        match fs.node? (place ++ [name]) with
        | none => throw .notFound
        | some (.link target) =>
            match links with
            | 0 => throw .tooManyLinks
            | links + 1 =>
                let (start, more) := steps place target
                walk fs links start (more ++ rest)
        | some _ => walk fs links (place ++ [name]) rest
  termination_by (links, names.length)

def find (fs : FileSystem) (path : String) : Except OsError Node := do
  if path.toList.contains '\x00' then throw .nullInPath
  if path = "" then throw .notFound
  if maxPathLength < path.utf8ByteSize then throw .nameTooLong
  let (start, names) := steps fs.workingDirectory path
  match fs.node? (← fs.walk maxLinks start names) with
  | some node => pure node
  | none => throw .notFound

def readBytes (fs : FileSystem) (path : String) : Except OsError Bytes := do
  match ← fs.find path with
  | .file octets => pure octets
  | .directory => throw .isADirectory
  | .socket _ => throw .noSuchDevice
  | .link _ => throw .tooManyLinks

def readText (fs : FileSystem) (path : String) : Except OsError String := do
  (Text.Utf8.decodeString (← fs.readBytes path)).mapError fun _ => .notText

def isSocket (fs : FileSystem) (path : String) : Except OsError Bool := do
  match ← fs.find path with
  | .socket _ => pure true
  | _ => pure false

def addressRoom : Nat := 108

/-- What listens at the address of a socket. An address that starts with a null character names no
file, and nothing listens there. -/
def connect (fs : FileSystem) (address : String) : Except OsError Listener := do
  if address.toList.head? = some '\x00' then
    throw (if addressRoom < address.utf8ByteSize then .abstractAddressTooLong
      else .connectionRefused)
  if address.toList.contains '\x00' then throw .nullInAddress
  if addressRoom ≤ address.utf8ByteSize then throw .addressTooLong
  if address = "" then throw .invalidArgument
  match ← fs.find address with
  | .socket (some listener) => pure listener
  | _ => throw .connectionRefused

end SshTunnel.FileSystem
