import SshTunnel.FileSystem.Path
import SshTunnel.KnownHosts.Basic

/-!
# Files of known hosts

Every line that is neither blank nor a comment is an entry: possibly a marker, then the hosts, the
type of the key and its data. One line that is not well formed makes the whole file useless, and
the fault names the number of the line.
-/

namespace SshTunnel.KnownHosts

inductive LineFault where
  | empty
  | unknownMarker (marker : List Char)
  | noHosts
  | badHashed
  | badSalt (fault : Base64.Fault)
  | badDigest (fault : Base64.Fault)
  | noPatterns
  | noKeyType
  | noKeyData
  | badKey (kind : List Char) (fault : Key.Fault)
  deriving DecidableEq, Repr

def LineFault.message : LineFault → String
  | empty => "empty entry"
  | unknownMarker marker => "unknown marker " ++ String.ofList marker
  | noHosts => "missing host patterns"
  | badHashed => "invalid hashed hostname"
  | badSalt fault => "invalid hashed hostname salt: " ++ fault.message
  | badDigest fault => "invalid hashed hostname hash: " ++ fault.message
  | noPatterns => "empty host pattern list"
  | noKeyType => "missing key type"
  | noKeyData => "missing key data"
  | badKey kind fault => "invalid " ++ String.ofList kind ++ " key: " ++ fault.message

/-- Why a file gives no known hosts. -/
inductive Fault where
  | unreadable (cause : OsError)
  | line (number : Nat) (fault : LineFault)
  deriving DecidableEq, Repr

def Fault.message : Fault → String
  | unreadable cause => cause.message
  | line number fault => s!"line {number}: {fault.message}"

def readMarker (word : List Char) : Except LineFault Marker :=
  if word = "@revoked".toList then .ok .revoked
  else if word = "@cert-authority".toList then .ok .certAuthority
  else if word.head? = some '@' then .error (.unknownMarker word)
  else .ok .plain

def readHashed (text : List Char) : Except LineFault Hosts :=
  match Text.splitFirst (· = '|') text with
  | none => .error .badHashed
  | some (salt, digest) => do
      let salt ← (Base64.decode (Text.Utf8.encode salt)).mapError .badSalt
      let digest ← (Base64.decode (Text.Utf8.encode digest)).mapError .badDigest
      pure (.hashed salt digest)

def readPatterns (text : List Char) : Except LineFault Hosts :=
  match (Text.splitEvery (· = ',') text).filter (· ≠ []) with
  | [] => .error .noPatterns
  | list => .ok (.patterns (list.map String.ofList))

def readHosts : List Char → Except LineFault Hosts
  | '|' :: '1' :: '|' :: text => readHashed text
  | text => readPatterns text

def readKey : List (List Char) → Except LineFault PublicKey
  | [] => .error .noKeyType
  | [_] => .error .noKeyData
  | kind :: data :: _ => (PublicKey.read kind data).mapError (.badKey kind)

def hostsWord (marker : Marker) (first : List Char) (rest : List (List Char)) :
    Except LineFault (List Char × List (List Char)) :=
  if marker = .plain then .ok (first, rest)
  else
    match rest with
    | [] => .error .noHosts
    | hosts :: rest => .ok (hosts, rest)

def readWords : List (List Char) → Except LineFault Entry
  | [] => .error .empty
  | first :: rest => do
      let marker ← readMarker first
      let (hosts, rest) ← hostsWord marker first rest
      let hosts ← readHosts hosts
      let key ← readKey rest
      pure { marker, hosts, key }

def readLine (line : List Char) : Except LineFault Entry :=
  readWords (Text.words (Text.trim line))

def isIdle (line : List Char) : Bool :=
  Text.trim line = [] || (Text.trim line).head? = some '#'

def readLines (number : Nat) : List (List Char) → Except Fault (List Entry)
  | [] => .ok []
  | line :: lines =>
      if isIdle line then readLines (number + 1) lines
      else
        match readLine line with
        | .error fault => .error (.line number fault)
        | .ok e => (readLines (number + 1) lines).map (e :: ·)

def readEntries (text : List Char) : Except Fault (List Entry) :=
  readLines 1 (Text.lines text)

def load (fs : FileSystem) (path : String) : Except Fault KnownHosts := do
  let text ← (fs.readText path).mapError .unreadable
  let entries ← readEntries text.toList
  pure { path, entries }

end SshTunnel.KnownHosts
