import SshTunnel.Digest.Hmac
import SshTunnel.Glob
import SshTunnel.Key.Public

/-!
# Known hosts

The known hosts are entries that tie a key to hosts, given by patterns or by a keyed digest of the
host's identity. `KnownHosts.check` goes through the entries once and tells what they say about a
key that a host presents.
-/

namespace SshTunnel

/-- The identity that a host is recorded under: its name, with the port unless that is 22. -/
def hostIdentity (host : String) (port : UInt16) : String :=
  if port = 22 then host else s!"[{host}]:{port.toNat}"

inductive HostKeyStatus where
  | trusted
  /-- Nothing is known about the host. -/
  | unknown
  /-- The host is known, with other keys. -/
  | mismatch
  | revoked
  deriving DecidableEq, Repr

def HostKeyStatus.name : HostKeyStatus → String
  | trusted => "Trusted"
  | unknown => "Unknown"
  | mismatch => "Mismatch"
  | revoked => "Revoked"

namespace KnownHosts

/-- What the key of an entry is good for. -/
inductive Marker where
  | plain
  | revoked
  | certAuthority
  deriving DecidableEq, Repr

inductive Hosts where
  | patterns (list : List String)
  | hashed (salt digest : Bytes)
  deriving DecidableEq, Repr

def Hosts.include : Hosts → String → Bool
  | patterns list, identity => Glob.listMatches list identity
  | hashed salt digest, identity => Digest.hmacSha1 salt (Text.Utf8.ofString identity) = digest

structure Entry where
  marker : Marker
  hosts : Hosts
  key : PublicKey
  deriving DecidableEq, Repr

end KnownHosts

structure KnownHosts where
  path : String
  entries : List KnownHosts.Entry
  deriving DecidableEq, Repr

namespace KnownHosts

/-- What the entries say about a key, after those that came before: `known` tells whether the host
has occurred with some key, `trusted` whether with this one. -/
def verdict (identity : String) (key : PublicKey) (known trusted : Bool) :
    List Entry → HostKeyStatus
  | [] => if trusted then .trusted else if known then .mismatch else .unknown
  | e :: entries =>
      if e.hosts.include identity then
        match e.marker with
        | .revoked =>
            if e.key = key then .revoked else verdict identity key known trusted entries
        | .certAuthority => verdict identity key known trusted entries
        | .plain => verdict identity key true (trusted || e.key = key) entries
      else verdict identity key known trusted entries

def check (store : KnownHosts) (host : String) (port : UInt16) (key : PublicKey) : HostKeyStatus :=
  verdict (hostIdentity host port) key false false store.entries

end KnownHosts

end SshTunnel
