import SshTunnel.Connection
import SshTunnel.IpAddress
import SshTunnel.Resolution

/-!
# Networks

A network tells what answers at hosts, and at the sockets of a file system. `Network.dial` connects
to a target by a route, within a time.
-/

namespace SshTunnel

structure Network where
  files : FileSystem := {}
  /-- What answers at a host and a port. -/
  hosts : Target → Except OsError Listener

namespace Network

/-- What a client without any network finds at a host: addresses cannot be reached, and names
cannot be looked up. -/
def unreachable (target : Target) : OsError :=
  if target.host.toList.contains '\x00' then .nullInPath
  else if target.host = "" then .unknownHost
  else if target.host = "localhost" || (IpAddress.parse? target.host.toList).isSome then
    .networkUnreachable
  else .noAddress

def offline (files : FileSystem) : Network where
  files
  hosts target := .error (unreachable target)

def reach (net : Network) (route : Route) (target : Target) : Except OsError Listener :=
  match route with
  | .direct => net.hosts target
  | .proxy address => net.hosts address.endpoint
  | .control socket => net.files.connect socket

/-- Connects to a target. What is still incomplete when the listener has sent all that it sends
is given up after the given time. -/
def dial (net : Network) (route : Route) (target : Target) (timeout : Duration) :
    Except Error Connection := do
  let failed (cause : OsError) : Error := .dialFailed (route.endpoint target) cause.message
  let listener ← (net.reach route target).mapError failed
  match ← Connection.setUp route target listener.octets with
  | some connection => pure connection
  | none => throw (failed (.noConnection timeout.render))

/-- Makes connections through a network on which no listener starts a handshake. -/
def dialer (net : Network) : Dialer := fun route target timeout =>
  (net.dial route target timeout).map fun _ => .silent

end Network

end SshTunnel
