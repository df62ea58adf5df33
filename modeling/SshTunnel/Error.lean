import SshTunnel.Duration.Basic
import SshTunnel.Text.Quoted

/-!
# Errors of a resolution

An `Error` is a cause for which no stream can be had. Each cause belongs to one `Step` of the
resolution, and its message starts with the name of that step.
-/

namespace SshTunnel

/-- The steps of a resolution, from reading the settings to opening the remote socket. -/
inductive Step where
  | config | descriptor | auth | trust | username | transport | handshake | channel
  deriving DecidableEq, Repr

def Step.name : Step → String
  | .config => "config"
  | .descriptor => "descriptor"
  | .auth => "auth"
  | .trust => "trust"
  | .username => "username"
  | .transport => "transport"
  | .handshake => "handshake"
  | .channel => "channel"

/-- The causes for which a resolution fails. -/
inductive Error where
  | descriptorInvalid (reason : String)
  | noUsableAuthMethod (configured : String)
  | trustStoreUnreadable (path reason : String)
  | usernameResolutionFailed (reason : String)
  | controlSocketUnavailable (path reason : String)
  | proxyAddressInvalid (address reason : String)
  | dialFailed (address cause : String)
  | proxyHandshakeFailed (target reason : String)
  | controlChannelFailed (reason : String)
  | untrustedHost (host : String)
  | authenticationRejected (user : String)
  | handshakeTimeout (after : Duration)
  | handshake (reason : String)
  | remoteSocketUnreachable (path reason : String)
  | config (reason : String)
  | yaml (reason : String)
  | io (cause : String)
  deriving DecidableEq, Repr

namespace Error

def step : Error → Step
  | descriptorInvalid _ => .descriptor
  | noUsableAuthMethod _ => .auth
  | trustStoreUnreadable _ _ => .trust
  | usernameResolutionFailed _ => .username
  | controlSocketUnavailable _ _ | proxyAddressInvalid _ _ | dialFailed _ _
  | proxyHandshakeFailed _ _ | controlChannelFailed _ => .transport
  | untrustedHost _ | authenticationRejected _ | handshakeTimeout _ | handshake _ => .handshake
  | remoteSocketUnreachable _ _ => .channel
  | config _ | yaml _ | io _ => .config

/-- What went wrong, without the name of the step. -/
def detail : Error → String
  | descriptorInvalid reason => reason
  | noUsableAuthMethod configured =>
      s!"no usable authentication method (configured: {configured})"
  | trustStoreUnreadable path reason => s!"cannot load known_hosts {path}: {reason}"
  | usernameResolutionFailed reason => s!"cannot determine remote user: {reason}"
  | controlSocketUnavailable path reason => s!"control socket {path} unavailable: {reason}"
  | proxyAddressInvalid address reason =>
      "invalid proxy address " ++ Text.quoted address ++ ": " ++ reason
  | dialFailed address cause => s!"dial {address} failed: {cause}"
  | proxyHandshakeFailed target reason => s!"proxy refused connection to {target}: {reason}"
  | controlChannelFailed reason => s!"control master refused: {reason}"
  | untrustedHost host => s!"host key for {host} is not trusted"
  | authenticationRejected user => s!"all authentication methods rejected for user {user}"
  | handshakeTimeout after => "timed out after " ++ after.render
  | handshake reason => s!"SSH protocol error: {reason}"
  | remoteSocketUnreachable path reason => s!"cannot reach remote socket {path}: {reason}"
  | config reason => reason
  | yaml reason => s!"YAML parse error: {reason}"
  | io cause => s!"I/O error: {cause}"

def message (e : Error) : String :=
  e.step.name ++ ": " ++ e.detail

end Error

end SshTunnel
