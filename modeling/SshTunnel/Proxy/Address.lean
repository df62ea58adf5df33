import SshTunnel.Error
import SshTunnel.Target
import SshTunnel.Text.Percent
import SshTunnel.Text.Split

/-!
# Addresses of proxies

`ProxyAddress.parse` reads `scheme://[user[:password]@]host[:port]` and whatever a slash, question
mark or number sign sets apart after it. Only SOCKS schemes are known. `ProxyAddress.text` writes
an address without its password.
-/

namespace SshTunnel

inductive ProxyScheme where
  | socks5
  /-- As `socks5`; the proxy looks up the target's name. -/
  | socks5h
  deriving DecidableEq, Repr

namespace ProxyScheme

def name : ProxyScheme → String
  | socks5 => "socks5"
  | socks5h => "socks5h"

def title : ProxyScheme → String
  | socks5 => "Socks5"
  | socks5h => "Socks5h"

def ofName? (name : List Char) : Option ProxyScheme :=
  let name := String.ofList (name.map Char.toLower)
  if name = "socks5" ∨ name = "socks" then some socks5
  else if name = "socks5h" then some socks5h
  else none

end ProxyScheme

structure ProxyAddress where
  scheme : ProxyScheme
  host : String
  port : UInt16
  username : Option String := none
  password : Option String := none
  deriving DecidableEq, Repr

namespace ProxyAddress

def defaultPort : UInt16 := 1080

/-- Why a text is no address of a proxy. -/
inductive Fault where
  | noScheme
  | unknownScheme (scheme : List Char)
  | unterminatedHost
  | unexpected (text : List Char)
  | badPort (port : List Char)
  | noHost
  | badEncoding (fault : Text.Utf8.Fault)
  deriving DecidableEq, Repr

def Fault.message : Fault → String
  | noScheme => "missing scheme"
  | unknownScheme scheme => "unsupported scheme " ++ Text.quoted (String.ofList scheme)
  | unterminatedHost => "unterminated IPv6 literal"
  | unexpected text => "unexpected " ++ Text.quoted (String.ofList text) ++ " after host"
  | badPort port => "invalid port " ++ Text.quoted (String.ofList port)
  | noHost => "missing host"
  | badEncoding fault => fault.message

/-- The host and, after a colon, the text of the port. A host in brackets may hold colons. -/
def splitHost (s : List Char) : Except Fault (List Char × Option (List Char)) :=
  match s with
  | '[' :: rest =>
      match Text.splitFirst (· = ']') rest with
      | none => .error .unterminatedHost
      | some (host, []) => .ok (host, none)
      | some (host, ':' :: port) => .ok (host, some port)
      | some (_, after) => .error (.unexpected after)
  | _ =>
      match Text.splitLast (· = ':') s with
      | some (host, port) => .ok (host, some port)
      | none => .ok (s, none)

/-- The port of a text. No port and an empty port mean the default; zero is not a port. -/
def readPort (port : Option (List Char)) : Except Fault UInt16 :=
  match port with
  | none | some [] => .ok defaultPort
  | some text =>
      match (Text.word16? text).filter (· ≠ 0) with
      | some port => .ok port
      | none => .error (.badPort text)

def decode (s : List Char) : Except Fault (List Char) :=
  (Text.Percent.decode s).mapError .badEncoding

/-- The user and the password of a userinfo. An empty user is none at all. -/
def readUserinfo : Option (List Char) → Except Fault (Option String × Option String)
  | none => .ok (none, none)
  | some info => do
      let (user, password) := Text.splitOptional ':' info
      let user ← decode user
      let password ← password.mapM decode
      pure (if user = [] then none else some (String.ofList user), password.map String.ofList)

def endsAuthority (c : Char) : Bool :=
  c ∈ ['/', '?', '#']

def read (s : List Char) : Except Fault ProxyAddress := do
  let some (name, rest) := Text.splitWord [':', '/', '/'] s | throw .noScheme
  let some scheme := ProxyScheme.ofName? name | throw (.unknownScheme name)
  let authority := rest.takeWhile (!endsAuthority ·)
  let (userinfo, hostport) :=
    match Text.splitLast (· = '@') authority with
    | some (a, b) => (some a, b)
    | none => (none, authority)
  let (host, port) ← splitHost hostport
  let port ← readPort port
  if host = [] then throw .noHost
  let (username, password) ← readUserinfo userinfo
  pure { scheme, host := String.ofList host, port, username, password }

def parse (raw : String) : Except Error ProxyAddress :=
  (read raw.toList).mapError fun fault => .proxyAddressInvalid raw fault.message

/-- The user and the password to log in to the proxy with. A missing password is empty. -/
def credentials (p : ProxyAddress) : Option (String × String) :=
  p.username.map fun user => (user, p.password.getD "")

def endpoint (p : ProxyAddress) : Target :=
  ⟨p.host, p.port⟩

def text (p : ProxyAddress) : String :=
  let user :=
    match p.username with
    | some user => user ++ "@"
    | none => ""
  p.scheme.name ++ "://" ++ user ++ p.endpoint.text

def describe (p : ProxyAddress) : String :=
  "ProxyAddress \x7b scheme: " ++ p.scheme.title ++ ", host: " ++ Text.quoted p.host ++
    ", port: " ++ Text.decimal p.port.toNat ++
    ", username: " ++ Text.quotedOption p.username ++
    ", password: " ++ Text.quotedOption (p.password.map fun _ => "<redacted>") ++ " \x7d"

end ProxyAddress

end SshTunnel
