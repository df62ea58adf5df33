import SshTunnel.Bytes.BigEndian
import SshTunnel.IpAddress
import SshTunnel.Proxy.Address

/-!
# Negotiation with a proxy

The client greets the proxy with the methods of authentication it can take part in, logs in if the
proxy wants that, and asks for a connection to the target. `negotiate` tells, for all the octets
that the proxy ever sends, what the client sends and which octets follow the negotiation.
-/

namespace SshTunnel.Proxy

/-- Why a negotiation comes to nothing. -/
inductive Fault where
  | badUsername
  | badPassword
  | longHost
  | endOfStream
  | badVersion
  | loginWanted
  | noMethod
  | unknownMethod
  | loginRefused (status : UInt8)
  | badReserved
  | refused (code : UInt8)
  | unknownAddressKind
  | badDomain
  deriving DecidableEq, Repr

def refusal (code : UInt8) : String :=
  match code with
  | 1 => "General SOCKS server failure"
  | 2 => "Connection not allowed by ruleset"
  | 3 => "Network unreachable"
  | 4 => "Host unreachable"
  | 5 => "Connection refused"
  | 6 => "TTL expired"
  | 7 => "Command not supported"
  | 8 => "Address type not supported"
  | _ => "Unknown auth method"

def Fault.message : Fault → String
  | badUsername => "Invalid auth values: username length should between 1 to 255"
  | badPassword => "Invalid auth values: password length should between 1 to 255"
  | longHost => "Target address is invalid: overlong domain"
  | endOfStream => "unexpected end of file"
  | badVersion => "Invalid response version"
  | loginWanted => "Authorization required"
  | noMethod => "No acceptable auth methods"
  | unknownMethod => "Unknown auth method"
  | loginRefused status => s!"Password auth failure, code: {status.toNat}"
  | badReserved => "Invalid reserved byte"
  | refused code => refusal code
  | unknownAddressKind => "Unknown address type"
  | badDomain => "Target address is invalid: not a valid UTF-8 string"

def isSendable (s : Bytes) : Bool :=
  1 ≤ s.length && s.length ≤ 255

def counted (s : Bytes) : Bytes :=
  s.length.toUInt8 :: s

def encodeCredentials : Option (String × String) → Except Fault (Option (Bytes × Bytes))
  | none => .ok none
  | some (user, password) =>
      let user := Text.Utf8.ofString user
      let password := Text.Utf8.ofString password
      if !isSendable user then .error .badUsername
      else if !isSendable password then .error .badPassword
      else .ok (some (user, password))

/-- The host of a target with the kind of its address: a literal address, or a name. -/
def encodeHost (host : String) : Except Fault Bytes :=
  match IpAddress.parse? host.toList with
  | some (.v4 octets) => .ok (1 :: octets)
  | some (.v6 octets) => .ok (4 :: octets)
  | none =>
      let name := Text.Utf8.ofString host
      if 255 < name.length then .error .longHost else .ok (3 :: counted name)

def encodePort (port : UInt16) : Bytes :=
  [(port >>> 8).toUInt8, port.toUInt8]

/-- The methods that the client offers: none, and a login if it has credentials. -/
def greeting (credentials : Option (Bytes × Bytes)) : Bytes :=
  match credentials with
  | none => [5, 1, 0]
  | some _ => [5, 2, 0, 2]

def login (user password : Bytes) : Bytes :=
  1 :: counted user ++ counted password

def request (host : Bytes) (port : UInt16) : Bytes :=
  [5, 1, 0] ++ host ++ encodePort port

def receive (n : Nat) (s : Bytes) : Except Fault (Bytes × Bytes) :=
  match Bytes.take? n s with
  | some parts => .ok parts
  | none => .error .endOfStream

def readMethod (s : Bytes) : Except Fault (UInt8 × Bytes) := do
  let (head, rest) ← receive 2 s
  match head with
  | [version, method] => if version = 5 then pure (method, rest) else throw .badVersion
  | _ => throw .endOfStream

/-- What the client has to send for the method that the proxy selected. -/
def answerMethod (credentials : Option (Bytes × Bytes)) (method : UInt8) :
    Except Fault (Option Bytes) :=
  if method = 0 then .ok none
  else if method = 2 then
    match credentials with
    | some (user, password) => .ok (some (login user password))
    | none => .error .loginWanted
  else if method = 0xFF then .error .noMethod
  else .error .unknownMethod

def readStatus (s : Bytes) : Except Fault Bytes := do
  let (head, rest) ← receive 2 s
  match head with
  | [version, status] =>
      if version ≠ 1 then throw .badVersion
      else if status ≠ 0 then throw (.loginRefused status)
      else pure rest
  | _ => throw .endOfStream

def skipName (s : Bytes) : Except Fault Bytes := do
  let (head, rest) ← receive 1 s
  let (tail, rest) ← receive ((head.headD 0).toNat + 2) rest
  match Text.Utf8.decode (tail.take (tail.length - 2)) with
  | .ok _ => pure rest
  | .error _ => throw .badDomain

def skipAddress (kind : UInt8) (s : Bytes) : Except Fault Bytes :=
  if kind = 1 then (·.2) <$> receive 6 s
  else if kind = 4 then (·.2) <$> receive 18 s
  else if kind = 3 then skipName s
  else .error .unknownAddressKind

/-- The proxy's answer to the request; what follows it belongs to the connection. -/
def readReply (s : Bytes) : Except Fault Bytes := do
  let (head, rest) ← receive 4 s
  match head with
  | [version, code, reserved, kind] =>
      if version ≠ 5 then throw .badVersion
      else if reserved ≠ 0 then throw .badReserved
      else if code ≠ 0 then throw (.refused code)
      else skipAddress kind rest
  | _ => throw .endOfStream

structure Outcome where
  sent : Bytes := []
  /-- The octets that follow the negotiation. -/
  result : Except Fault Bytes

def finish (sent : Bytes) (host : Bytes) (port : UInt16) (reply : Bytes) : Outcome :=
  ⟨sent ++ request host port, readReply reply⟩

/-- The negotiation after its parameters are known to be sendable. -/
def exchange (credentials : Option (Bytes × Bytes)) (host : Bytes) (port : UInt16)
    (reply : Bytes) : Outcome :=
  let sent := greeting credentials
  match readMethod reply with
  | .error fault => ⟨sent, .error fault⟩
  | .ok (method, reply) =>
      match answerMethod credentials method with
      | .error fault => ⟨sent, .error fault⟩
      | .ok none => finish sent host port reply
      | .ok (some message) =>
          match readStatus reply with
          | .error fault => ⟨sent ++ message, .error fault⟩
          | .ok reply => finish (sent ++ message) host port reply

/-- The negotiation of a connection to a target, given all that the proxy sends. -/
def negotiate (proxy : ProxyAddress) (target : Target) (reply : Bytes) : Outcome :=
  match encodeCredentials proxy.credentials with
  | .error fault => ⟨[], .error fault⟩
  | .ok credentials =>
      match encodeHost target.host with
      | .error fault => ⟨[], .error fault⟩
      | .ok host => exchange credentials host target.port reply

/-- The octets that follow a negotiation, or the error that it ends in. -/
def Outcome.rest (o : Outcome) (target : Target) : Except Error Bytes :=
  o.result.mapError fun fault => .proxyHandshakeFailed target.text fault.message

end SshTunnel.Proxy
