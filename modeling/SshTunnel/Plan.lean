import SshTunnel.Auth
import SshTunnel.Json
import SshTunnel.RemoteUser
import SshTunnel.Route
import SshTunnel.Settings
import SshTunnel.Trust

/-!
# Plans

A plan holds all that is decided before the first connection is made. Its steps are taken in a
fixed order, and the first that fails decides the error. `Plan.summary` is what may be shown of a
plan: it holds no credentials.
-/

namespace SshTunnel

/-- What a resolution is going to do. -/
structure Plan where
  target : Target
  user : String
  auth : List AuthMethod
  trust : TrustPolicy
  route : Route
  /-- The socket to open on the remote host. -/
  remoteSocket : String
  notices : List Notice
  deriving DecidableEq, Repr

namespace Plan

def make (settings : Settings) (d : Descriptor) (env : Environment) (fs : FileSystem) :
    Except Error Plan := do
  let port ← d.sshPort
  let (auth, authNotices) := Auth.chain d settings.authMethods env fs
  let auth ← auth
  let (trust, trustNotices) ← TrustPolicy.ofDescriptor d env fs
  let (user, userNotices) := RemoteUser.resolve d env fs
  let user ← user
  let route ← Route.select d env fs
  pure {
    target := ⟨d.host, port⟩
    user
    auth
    trust
    route
    remoteSocket := (d.get? "socket").getD settings.remoteSocket
    notices := authNotices ++ trustNotices ++ userNotices }

def describeSession (plan : Plan) (timeout : Duration) : String :=
  let kinds := plan.auth.map fun m => m.kind.title
  "ClientSessionConfig \x7b host: " ++ Text.quoted plan.target.host ++
    ", port: " ++ Text.decimal plan.target.port.toNat ++
    ", user: " ++ Text.quoted plan.user ++
    ", verifying: " ++ (if plan.trust.isVerifying then "true" else "false") ++
    ", auth: [" ++ ", ".intercalate kinds ++ "], timeout: " ++ timeout.render ++ " \x7d"

end Plan

structure Summary where
  target : Target
  user : String
  auth : List AuthKind
  /-- The file that host keys are verified against, if they are verified. -/
  knownHosts : Option String
  route : Route
  remoteSocket : String
  notices : List Notice
  deriving DecidableEq, Repr

def Plan.summary (plan : Plan) : Summary where
  target := plan.target
  user := plan.user
  auth := plan.auth.map (·.kind)
  knownHosts := plan.trust.knownHostsPath?
  route := plan.route
  remoteSocket := plan.remoteSocket
  notices := plan.notices

def Settings.describe (settings : Settings) : String :=
  let keepalive :=
    match settings.keepaliveInterval with
    | none => "None"
    | some d => "Some(" ++ d.render ++ ")"
  "Resolver \x7b config: ResolverConfig \x7b dial_timeout: " ++ settings.dialTimeout.render ++
    ", remote_socket: " ++ Text.quoted settings.remoteSocket ++
    ", auth_methods: " ++ Text.quoted settings.authMethods ++
    ", keepalive_interval: " ++ keepalive ++ " \x7d, .. \x7d"

def ProxyAddress.toJson (p : ProxyAddress) : Json :=
  .object [("scheme", .string p.scheme.name), ("host", .string p.host),
    ("port", .number p.port.toNat), ("username", .ofOption p.username)]

def Route.toJson : Route → Json
  | direct => .object [("kind", .string "direct")]
  | control socket => .object [("kind", .string "via_control_channel"), ("socket", .string socket)]
  | proxy address => .object [("kind", .string "via_proxy"), ("proxy", address.toJson)]

def Target.toJson (t : Target) : Json :=
  .object [("host", .string t.host), ("port", .number t.port.toNat)]

def Notice.toJson (n : Notice) : Json :=
  .object [("kind", .string n.kind.name), ("message", .string n.message)]

def Summary.toJson (s : Summary) : Json :=
  .object [("target", s.target.toJson), ("user", .string s.user),
    ("auth", .array (s.auth.map fun k => .string k.name)),
    ("verify_host_keys", .bool s.knownHosts.isSome), ("known_hosts", .ofOption s.knownHosts),
    ("path", s.route.toJson), ("remote_socket", .string s.remoteSocket),
    ("notices", .array (s.notices.map Notice.toJson))]

end SshTunnel
