import SshTunnel.Descriptor.Basic
import SshTunnel.Environment.Template
import SshTunnel.FileSystem.Path
import SshTunnel.Key.Private
import SshTunnel.Notice

/-!
# Authentication methods

The descriptor, or else the settings, name the methods to authenticate with, in order. Each name
gives a method that is ready to be offered, or a notice that tells why there is none. `Auth.chain`
collects the methods; without any there is nothing to authenticate with.
-/

namespace SshTunnel

inductive AuthKind where
  | agent | privateKey | password
  deriving DecidableEq, Repr

namespace AuthKind

def name : AuthKind → String
  | agent => "agent"
  | privateKey => "privkey"
  | password => "ssh-password"

def title : AuthKind → String
  | agent => "Agent"
  | privateKey => "PrivateKey"
  | password => "Password"

def ofName? (name : String) : Option AuthKind :=
  if name = "agent" then some agent
  else if name = "privkey" then some privateKey
  else if name = "ssh-password" ∨ name = "password" then some password
  else none

theorem ofName?_name (k : AuthKind) : ofName? k.name = some k := by
  cases k <;> rfl

end AuthKind

inductive AuthMethod where
  | agent (agent : Agent)
  /-- A key with the file it comes from. -/
  | privateKey (path : String) (key : PublicKey)
  | password (text : String)
  deriving DecidableEq, Repr

namespace AuthMethod

def kind : AuthMethod → AuthKind
  | agent _ => .agent
  | privateKey _ _ => .privateKey
  | password _ => .password

def describe : AuthMethod → String
  | agent _ => "Agent(<agent>)"
  | privateKey path _ => "PrivateKey \x7b path: " ++ Text.quoted path ++ " \x7d"
  | password _ => "Password(<redacted>)"

end AuthMethod

namespace Auth

/-- Where the private key is read from when the descriptor names no file. -/
def defaultKeyPath : String := "$\x7bHOME\x7d/.ssh/id_rsa"

def names (configured : String) : List String :=
  (((Text.splitEvery (· = ',') configured.toList).map Text.trim).filter (· ≠ [])).map String.ofList

def agentMethod (env : Environment) (fs : FileSystem) : Except Notice AuthMethod :=
  match env.var "SSH_AUTH_SOCK" with
  | none =>
      .error ⟨.agentNotConfigured, "SSH_AUTH_SOCK is not set, skipping agent authentication"⟩
  | some socket =>
      match fs.connect socket with
      | .ok listener => .ok (.agent listener.toAgent)
      | .error cause =>
          .error ⟨.agentUnavailable,
            s!"unable to connect to SSH agent at {socket}: {cause.message}"⟩

def privateKeyMethod (d : Descriptor) (env : Environment) (fs : FileSystem) :
    Except Notice AuthMethod :=
  let path := Template.expand env ((d.get? "keyfile").getD defaultKeyPath)
  match fs.readBytes path with
  | .error cause => .error ⟨.keyUnreadable, s!"failed to read ssh key {path}: {cause.message}"⟩
  | .ok octets =>
      match PrivateKey.publicOfBytes octets with
      | .ok key => .ok (.privateKey path key)
      | .error reason => .error ⟨.keyUnparseable, s!"failed to parse ssh key {path}: {reason}"⟩

def passwordMethod (d : Descriptor) : Except Notice AuthMethod :=
  match d.password with
  | some password => .ok (.password password)
  | none =>
      .error ⟨.passwordMissing, "missing password in userinfo of URI authority section"⟩

def method (d : Descriptor) (env : Environment) (fs : FileSystem) (name : String) :
    Except Notice AuthMethod :=
  match AuthKind.ofName? name with
  | some .agent => agentMethod env fs
  | some .privateKey => privateKeyMethod d env fs
  | some .password => passwordMethod d
  | none => .error ⟨.unknownAuthMethod, s!"unsupported auth method: {name}"⟩

/-- The methods that names stand for. For a name that stands for none, a notice is added to those
that are present. -/
def collect (d : Descriptor) (env : Environment) (fs : FileSystem) (present : List Notice) :
    List String → List AuthMethod × List Notice
  | [] => ([], present)
  | name :: names =>
      match method d env fs name with
      | .ok m =>
          let (methods, notices) := collect d env fs present names
          (m :: methods, notices)
      | .error n => collect d env fs (present ++ [n]) names

/-- The methods that a descriptor names, or else those that are given by default. -/
def configured (d : Descriptor) (defaults : String) : String :=
  (d.get? "sshauth").getD defaults

/-- The methods to authenticate with, and the notices that are present with those that looking for
the methods gives rise to. -/
def chain (d : Descriptor) (defaults : String) (env : Environment) (fs : FileSystem)
    (present : List Notice := []) : Except Error (List AuthMethod) × List Notice :=
  let (methods, notices) := collect d env fs present (names (configured d defaults))
  (if methods = [] then .error (.noUsableAuthMethod (configured d defaults)) else .ok methods,
    notices)

end Auth

end SshTunnel
