import SshTunnel.CommandLine.Help
import SshTunnel.Descriptor.Uri
import SshTunnel.Resolution

/-!
# Reports

A report is all that a run of the program has to say, and the stream that it leads to, if any: the
caller then passes octets between it and the standard streams. `report` gives the report of a run
with the given arguments. A run takes no time of its own, so that the times it shows are zero.
-/

namespace SshTunnel.CommandLine

inductive Style where
  | normal | quiet | json
  deriving DecidableEq, Repr

def Options.style (o : Options) : Style :=
  if .json ∈ o.flags then .json
  else if .quiet ∈ o.flags then .quiet
  else .normal

structure Report where
  code : UInt8 := 0
  stdout : String := ""
  stderr : String := ""
  /-- What happened on the way. -/
  events : List Event := []
  /-- The stream that was asked for. -/
  stream : Option Stream := none
  deriving DecidableEq, Repr

namespace Report

/-- A line that tells of an event as a JSON value, perhaps with the time that has passed. -/
def eventLine (event message : String) (timed : Bool) : String :=
  let duration := if timed then [("duration_secs", Json.number 0)] else []
  (Json.object ([("event", .string event), ("message", .string message)] ++ duration)).render ++
    "\n"

def errorLine (style : Style) (timed : Bool) (e : Error) : String :=
  match style with
  | .normal | .quiet => "Error: " ++ e.message ++ "\n"
  | .json => eventLine "error" e.message timed

/-- The line that tells what goes on, where anything is told of it. -/
def progressLine (style : Style) (message : String) : String :=
  match style with
  | .normal => message ++ "\n"
  | .quiet | .json => ""

def successLine (style : Style) (message : String) : String :=
  match style with
  | .normal => message ++ " (0.0s)\n"
  | .quiet => message ++ "\n"
  | .json => eventLine "success" message true

def planLines (s : Summary) : List String :=
  let keys :=
    match s.knownHosts with
    | some path => "verified (" ++ path ++ ")"
    | none => "NOT VERIFIED"
  ["target:        " ++ s.target.text,
    "user:          " ++ s.user,
    "auth:          " ++ ",".intercalate (s.auth.map AuthKind.name),
    "host keys:     " ++ keys,
    "transport:     " ++ s.route.text,
    "remote socket: " ++ s.remoteSocket] ++
    s.notices.map fun n => "notice:        " ++ n.message

def planText (style : Style) (s : Summary) : String :=
  match style with
  | .normal => String.join ((planLines s).map (· ++ "\n"))
  | .quiet => s.route.text ++ "\n"
  | .json => (Json.object [("event", .string "plan"), ("plan", s.toJson)]).render ++ "\n"

def ofError (style : Style) (e : Error) : Report where
  code := 1
  stderr := errorLine style false e

def ofPlan (style : Style) : Except Error Plan → Report
  | .ok plan => { stdout := planText style plan.summary }
  | .error e => ofError style e

def connectedMessage (host : String) (s : Stream) : String :=
  "Connected to " ++ s.remoteSocket ++ " on " ++ host ++ " via " ++ s.route.text

def ofRun (style : Style) (host : String) (run : Run Stream) : Report :=
  let progress := progressLine style ("Resolving " ++ host ++ "...")
  match run.result with
  | .ok stream =>
      { stderr := progress ++ successLine style (connectedMessage host stream)
        events := run.events
        stream := some stream }
  | .error e =>
      { code := 1
        stderr := progress ++ errorLine style true e
        events := run.events }

/-- The report of a detour. What is wrong with the arguments is left to the caller to say. -/
def ofDetour : Detour → Report
  | .help topic => { stdout := topic.text }
  | .version => { stdout := versionText }
  | .misuse => { code := 2 }

end Report

def Options.settings (o : Options) (fs : FileSystem) : Except Error Settings :=
  match o.config with
  | some path => Settings.load fs path
  | none => .ok {}

def Invocation.perform (i : Invocation) (env : Environment) (fs : FileSystem) (dialer : Dialer) :
    Report :=
  let style := i.options.style
  let inputs : Except Error (Settings × Descriptor) := do
    let settings ← i.options.settings fs
    let d ← Descriptor.parse i.uri
    pure (settings, d)
  match inputs with
  | .error e => .ofError style e
  | .ok (settings, d) =>
      match i.task with
      | .plan => .ofPlan style (Plan.make settings d env fs)
      | .connect => .ofRun style d.host (resolve settings d env fs dialer)

def report (args : List String) (env : Environment) (fs : FileSystem) (dialer : Dialer) : Report :=
  match Invocation.read args with
  | .ok invocation => invocation.perform env fs dialer
  | .error detour => .ofDetour detour

end SshTunnel.CommandLine
