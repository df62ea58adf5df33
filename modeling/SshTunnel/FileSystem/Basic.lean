import SshTunnel.Agent
import SshTunnel.OsError

/-!
# File systems

A file system is a list of paths with what is found there, and a working directory. The directories
on the way to an entry, and to the working directory, exist without being listed.
-/

namespace SshTunnel

/-- What answers whoever connects to a socket. -/
inductive Listener where
  /-- Takes the connection and never answers. -/
  | silent
  /-- Sends octets, then keeps the connection open. -/
  | sends (octets : Bytes)
  | agent (agent : Agent)
  deriving DecidableEq, Repr

def Agent.refusal : Bytes := [0, 0, 0, 1, 5]

def Listener.octets : Listener → Bytes
  | silent | agent .hangs => []
  | sends octets => octets
  | agent _ => Agent.refusal

def Listener.toAgent : Listener → Agent
  | silent => .hangs
  | sends _ => .refuses
  | agent a => a

inductive Node where
  | file (octets : Bytes)
  | directory
  /-- A symbolic link; its target is seen from the directory that holds the link. -/
  | link (target : String)
  /-- A socket and what listens at it, if anything does. -/
  | socket (listener : Option Listener)
  deriving DecidableEq, Repr

/-- Paths, as the names on the way from the root, with what is there. -/
structure FileSystem where
  workingDirectory : List String := []
  entries : List (List String × Node) := []
  deriving DecidableEq, Repr, Inhabited

namespace FileSystem

def leadsOn (fs : FileSystem) (path : List String) : Bool :=
  path.isPrefixOf fs.workingDirectory || fs.entries.any fun (p, _) => path.isPrefixOf p

def node? (fs : FileSystem) (path : List String) : Option Node :=
  match fs.entries.lookup path with
  | some node => some node
  | none => if fs.leadsOn path then some .directory else none

end FileSystem

end SshTunnel
