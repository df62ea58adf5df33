import SshTunnel.Descriptor.Basic
import SshTunnel.Environment.Template
import SshTunnel.KnownHosts.File
import SshTunnel.Notice

/-!
# Trust in host keys

A trust policy judges the keys that hosts present: by the known hosts, or not at all when the
descriptor switches verification off. It never changes from one to the other on its own.
-/

namespace SshTunnel

/-- How the keys that hosts present are judged. -/
inductive TrustPolicy where
  | verify (store : KnownHosts)
  /-- Every key is accepted. -/
  | acceptAll
  deriving DecidableEq, Repr

namespace TrustPolicy

def defaultPath : String := "$\x7bHOME\x7d/.ssh/known_hosts"

/-- Whether a descriptor switches verification off. -/
def isDisabled (d : Descriptor) : Bool :=
  d.get? "known_hosts_verify" = some "ignore" || d.has "no_verify"

def disabledNotice (host : String) : Notice :=
  ⟨.insecureHostKeys,
    s!"host key verification disabled for {host}: any host key will be accepted"⟩

def ofDescriptor (d : Descriptor) (env : Environment) (fs : FileSystem) :
    Except Error (TrustPolicy × List Notice) :=
  if isDisabled d then .ok (.acceptAll, [disabledNotice d.host])
  else
    let path := Template.expand env ((d.get? "knownhosts").getD defaultPath)
    match KnownHosts.load fs path with
    | .ok store => .ok (.verify store, [])
    | .error fault => .error (.trustStoreUnreadable path fault.message)

def isVerifying : TrustPolicy → Bool
  | verify _ => true
  | acceptAll => false

def knownHostsPath? : TrustPolicy → Option String
  | verify store => some store.path
  | acceptAll => none

def accepts : TrustPolicy → String → UInt16 → PublicKey → Bool
  | acceptAll, _, _, _ => true
  | verify store, host, port, key => store.check host port key = .trusted

end TrustPolicy

end SshTunnel
