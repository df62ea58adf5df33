import SshTunnel.Duration.Parser
import SshTunnel.Error
import SshTunnel.FileSystem.Path
import SshTunnel.Text.Blank
import SshTunnel.Yaml.Document

/-!
# Settings

The settings hold the defaults that descriptors do not override. `Settings.ofYaml` reads them from
a document in which each of them may occur once, and `Settings.load` from a file.
-/

namespace SshTunnel

structure Settings where
  /-- How long dialing may take, and how long the handshake may take after it. -/
  dialTimeout : Duration := .ofSeconds 10
  /-- The remote socket to open where a descriptor names none. -/
  remoteSocket : String := "/var/run/libvirt/libvirt-sock"
  /-- The authentication methods where a descriptor names none. -/
  authMethods : String := "agent,privkey"
  keepaliveInterval : Option Duration := none
  deriving DecidableEq, Repr

namespace Settings

def readDuration (name : String) (s : Yaml.Scalar) : Except Yaml.Fault Duration :=
  match Duration.parse? s.text.toList with
  | some d => .ok d
  | none => .error (.badField name)

def isNull (text : String) : Bool :=
  text ∈ ["null", "Null", "NULL", "~"]

def nullTag : List Char := "tag:yaml.org,2002:null".toList

def readOptionalDuration (name : String) (s : Yaml.Scalar) :
    Except Yaml.Fault (Option Duration) :=
  if !s.plain then some <$> readDuration name s
  else
    match s.tag with
    | some tag =>
        if tag ≠ nullTag then some <$> readDuration name s
        else if isNull s.text then .ok none
        else .error (.badField name)
    | none => if s.text = "" || isNull s.text then .ok none else some <$> readDuration name s

def set (settings : Settings) (name : String) (value : Yaml.Scalar) :
    Except Yaml.Fault Settings :=
  if name = "dial_timeout" then
    (readDuration name value).map fun d => { settings with dialTimeout := d }
  else if name = "remote_socket" then .ok { settings with remoteSocket := value.text }
  else if name = "auth_methods" then .ok { settings with authMethods := value.text }
  else if name = "keepalive_interval" then
    (readOptionalDuration name value).map fun d => { settings with keepaliveInterval := d }
  else .error (.badField name)

/-- Takes in the entries of a document; `seen` holds the names that came before. -/
def readEntries (d : Yaml.Document) (settings : Settings) (seen : List String) :
    List (Yaml.Node × Yaml.Node) → Except Yaml.Fault Settings
  | [] => .ok settings
  | (key, value) :: entries =>
      match d.scalar? key, d.scalar? value with
      | some key, some value =>
          if key.text ∈ seen then .error (.badField key.text)
          else do readEntries d (← settings.set key.text value) (key.text :: seen) entries
      | _, _ => .error .nested

def validate (settings : Settings) : Except Error Settings :=
  if settings.dialTimeout.isZero then .error (.config "dial_timeout must be greater than zero")
  else if Text.trim settings.remoteSocket.toList = [] then
    .error (.config "remote_socket cannot be empty")
  else .ok settings

def ofYaml (text : String) : Except Error Settings := do
  let read : Except Yaml.Fault Settings := do
    let d ← Yaml.Document.ofText text
    readEntries d {} [] d.entries
  validate (← read.mapError fun fault => .yaml fault.message)

def load (fs : FileSystem) (path : String) : Except Error Settings := do
  let text ← (fs.readText path).mapError fun cause => .io cause.message
  ofYaml text

end Settings

end SshTunnel
