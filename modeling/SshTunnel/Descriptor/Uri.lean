import SshTunnel.Descriptor.Basic
import SshTunnel.Text.Percent
import SshTunnel.Text.Split

/-!
# Descriptors from URIs

`parse` reads `scheme://[user[:password]@]host[:port][/path][?name=value&...]`. The scheme may be
left out, blank characters around the URI are ignored, and the path is not looked at. User,
password, names and values may hold percent groups; in names and values a plus sign is a space.
-/

namespace SshTunnel.Descriptor

inductive Fault where
  | noHost (uri : List Char)
  | unterminatedHost (text : List Char)
  | badEncoding (text : List Char) (fault : Text.Utf8.Fault)
  deriving DecidableEq, Repr

def Fault.message : Fault → String
  | noHost uri => "no host in " ++ Text.quoted (String.ofList uri)
  | unterminatedHost text => "unterminated IPv6 host: " ++ String.ofList text
  | badEncoding text fault =>
      "bad percent-encoding in " ++ Text.quoted (String.ofList text) ++ ": " ++ fault.message

def afterScheme (uri : List Char) : List Char :=
  match Text.splitWord [':', '/', '/'] uri with
  | some (_, rest) => rest
  | none => uri

def splitUserinfo (authority : List Char) : Option (List Char) × List Char :=
  match Text.splitLast (· = '@') authority with
  | some (a, b) => (some a, b)
  | none => (none, authority)

/-- The host and the port, if a colon announces one. A host in brackets may hold colons. -/
def splitHostPort (s : List Char) : Except Fault (List Char × Option (List Char)) :=
  match s with
  | '[' :: rest =>
      match Text.splitFirst (· = ']') rest with
      | none => .error (.unterminatedHost s)
      | some (host, ':' :: port) => .ok (host, some port)
      | some (host, _) => .ok (host, none)
  | _ =>
      match Text.splitLast (· = ':') s with
      | some (host, port) => .ok (host, some port)
      | none => .ok (s, none)

def decode (s : List Char) : Except Fault (List Char) :=
  match Text.Percent.decode s with
  | .ok t => .ok t
  | .error fault => .error (.badEncoding s fault)

/-- A name or value of a query without its percent groups and plus signs. -/
def decodeQuery (s : List Char) : Except Fault (List Char) :=
  decode (s.map fun c => if c = '+' then ' ' else c)

/-- The user and the password of a userinfo. An empty user is none at all. -/
def readUserinfo : Option (List Char) → Except Fault (Option String × Option String)
  | none => .ok (none, none)
  | some info => do
      let (user, password) := Text.splitOptional ':' info
      let user ← if user = [] then pure none else some <$> decode user
      let password ← password.mapM decode
      pure (user.map String.ofList, password.map String.ofList)

/-- The name and value of one item of a query; an item without an equals sign is a name. -/
def readPair (pair : List Char) : Except Fault (String × String) := do
  let (name, value) := Text.splitOptional '=' pair
  let name ← decodeQuery name
  let value ← decodeQuery (value.getD [])
  pure (String.ofList name, String.ofList value)

/-- The items of a query; nothing stands between two ampersands that follow each other. -/
def queryItems (query : List Char) : List (List Char) :=
  (Text.splitEvery (· = '&') query).filter (· ≠ [])

def addItems (d : Descriptor) : List (List Char) → Except Fault Descriptor
  | [] => .ok d
  | item :: items => do
      let (name, value) ← readPair item
      addItems (d.withParam name value) items

def readAuthority (uri rest : List Char) : Except Fault Descriptor := do
  let (userinfo, hostport) := splitUserinfo (rest.takeWhile (· ≠ '/'))
  let (user, password) ← readUserinfo userinfo
  let (host, port) ← splitHostPort hostport
  if host = [] then .error (.noHost uri)
  else .ok { host := String.ofList host, port := port.map String.ofList, user, password }

def parseTrimmed (uri : List Char) : Except Fault Descriptor := do
  let (rest, query) := Text.splitOptional '?' (afterScheme uri)
  let d ← readAuthority uri rest
  addItems d (queryItems (query.getD []))

def parse (uri : String) : Except Error Descriptor :=
  (parseTrimmed (Text.trim uri.toList)).mapError fun f => .descriptorInvalid f.message

end SshTunnel.Descriptor
