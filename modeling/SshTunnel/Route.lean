import SshTunnel.Descriptor.Basic
import SshTunnel.Environment.Template
import SshTunnel.FileSystem.Path
import SshTunnel.Proxy.Address

/-!
# Routes to the server

A server is reached directly, through the control socket of a running client, or through a proxy.
A control socket that the descriptor names comes before a proxy that the environment names, and
both come before the direct route. What is named but cannot be used is an error.
-/

namespace SshTunnel

inductive Route where
  | direct
  | control (socket : String)
  | proxy (address : ProxyAddress)
  deriving DecidableEq, Repr

namespace Route

def text : Route → String
  | direct => "direct"
  | control socket => "control channel " ++ socket
  | proxy address => "proxy " ++ address.text

def describe : Route → String
  | direct => "Direct"
  | control socket => "ViaControlChannel \x7b socket: " ++ Text.quoted socket ++ " \x7d"
  | proxy address => "ViaProxy \x7b proxy: " ++ address.describe ++ " \x7d"

def endpoint (route : Route) (target : Target) : String :=
  match route with
  | direct => target.text
  | control socket => socket
  | proxy address => address.endpoint.text

def viaControl (fs : FileSystem) (socket : String) : Except Error Route :=
  match fs.isSocket socket with
  | .ok true => .ok (.control socket)
  | .ok false => .error (.controlSocketUnavailable socket "not a socket")
  | .error cause => .error (.controlSocketUnavailable socket cause.message)

def proxyVar? (env : Environment) : Option String :=
  ["HTTP_PROXY", "ALL_PROXY"].findSome? env.var

def select (d : Descriptor) (env : Environment) (fs : FileSystem) : Except Error Route :=
  match d.get? "SSHControlPath" with
  | some template => viaControl fs (Template.expand env template)
  | none =>
      match proxyVar? env with
      | some raw => (ProxyAddress.parse raw).map .proxy
      | none => .ok .direct

end Route

end SshTunnel
