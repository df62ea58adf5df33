import SshTunnel.Text.Split

/-!
# Arguments of the command line

Arguments name a task and a descriptor, with options before, between and after them. Each option
may be given once before the task and once after it. `Invocation.read` gives the invocation that
arguments ask for, or the detour that they lead to instead of a run.
-/

namespace SshTunnel.CommandLine

inductive Task where
  | connect | plan
  deriving DecidableEq, Repr

def Task.name : Task → String
  | connect => "connect"
  | plan => "plan"

def Task.ofName? (name : String) : Option Task :=
  [Task.connect, Task.plan].find? (·.name = name)

inductive Topic where
  | program
  | task (task : Task)
  | help
  deriving DecidableEq, Repr

/-- What arguments lead to instead of a run. -/
inductive Detour where
  | help (topic : Topic)
  | version
  | misuse
  deriving DecidableEq, Repr

/-- Options without a value. -/
inductive Flag where
  | verbose | json | quiet
  deriving DecidableEq, Repr

structure Options where
  flags : List Flag := []
  /-- The file of settings. -/
  config : Option String := none
  deriving DecidableEq, Repr

namespace Options

def withFlag (o : Options) (flag : Flag) : Except Detour Options :=
  if flag ∈ o.flags then .error .misuse else .ok { o with flags := flag :: o.flags }

def withConfig (o : Options) (file : String) : Except Detour Options :=
  if o.config.isSome || file = "" then .error .misuse else .ok { o with config := some file }

def isConflict (o : Options) : Bool :=
  .json ∈ o.flags && .quiet ∈ o.flags

def merge (before after : Options) : Options where
  flags := before.flags ++ after.flags
  config := after.config.or before.config

end Options

inductive Switch where
  | flag (flag : Flag)
  | config
  | help
  | version
  deriving DecidableEq, Repr

/-- The option of a long name. The version can be asked for before the task only. -/
def Switch.ofName? (topic : Topic) (name : List Char) : Option Switch :=
  let name := String.ofList name
  if name = "verbose" then some (.flag .verbose)
  else if name = "json" then some (.flag .json)
  else if name = "quiet" then some (.flag .quiet)
  else if name = "config" then some .config
  else if name = "help" then some .help
  else if name = "version" ∧ topic = .program then some .version
  else none

def Switch.ofLetter? (topic : Topic) (c : Char) : Option Switch :=
  if c = 'v' then some (.flag .verbose)
  else if c = 'q' then some (.flag .quiet)
  else if c = 'h' then some .help
  else if c = 'V' ∧ topic = .program then some .version
  else none

structure Reading where
  options : Options := {}
  /-- Whether the next argument is the file of settings. -/
  awaitsConfig : Bool := false
  deriving DecidableEq, Repr

def readName (topic : Topic) (o : Options) (name : List Char) (value : Option (List Char)) :
    Except Detour Reading :=
  match Switch.ofName? topic name, value with
  | some (.flag flag), none => do pure { options := ← o.withFlag flag }
  | some .config, none => .ok { options := o, awaitsConfig := true }
  | some .config, some file => do pure { options := ← o.withConfig (String.ofList file) }
  | some .help, none => .error (.help topic)
  | some .version, none => .error .version
  | _, _ => .error .misuse

def readLetters (topic : Topic) (o : Options) : List Char → Except Detour Options
  | [] => .ok o
  | c :: letters =>
      match Switch.ofLetter? topic c with
      | some (.flag flag) => do readLetters topic (← o.withFlag flag) letters
      | some .help => .error (.help topic)
      | some .version => .error .version
      | some .config | none => .error .misuse

def isOption (arg : List Char) : Bool :=
  arg.head? = some '-' && 1 < arg.length

/-- Reads the file of settings, or options; anything else is left to the caller. -/
def readArgument (topic : Topic) (r : Reading) (arg : String) : Except Detour (Option Reading) :=
  if r.awaitsConfig then
    if isOption arg.toList then .error .misuse
    else do pure (some { options := ← r.options.withConfig arg })
  else
    match arg.toList with
    | '-' :: '-' :: s =>
        let (name, value) := Text.splitOptional '=' s
        some <$> readName topic r.options name value
    | '-' :: c :: letters => do
        pure (some { options := ← readLetters topic r.options (c :: letters) })
    | _ => .ok none

def separator : String := "--"

def endTask (r : Reading) (uris : List String) : Except Detour (Options × String) :=
  match uris with
  | [uri] =>
      if r.awaitsConfig || r.options.isConflict then .error .misuse else .ok (r.options, uri)
  | _ => .error .misuse

def readTask (topic : Topic) (r : Reading) (uri : Option String) :
    List String → Except Detour (Options × String)
  | [] => endTask r uri.toList
  | arg :: args =>
      if arg = separator then endTask r (uri.toList ++ args)
      else do
        match ← readArgument topic r arg with
        | some r => readTask topic r uri args
        | none => if uri.isSome then throw .misuse else readTask topic r (some arg) args

def readHelp : List String → Detour
  | [] => .help .program
  | [name] =>
      match Task.ofName? name with
      | some task => .help (.task task)
      | none => if name = "help" then .help .help else .misuse
  | _ => .misuse

structure Invocation where
  options : Options
  task : Task
  uri : String
  deriving DecidableEq, Repr

namespace Invocation

/-- Reads the arguments from the name of a task on, unless they are the value of an option. -/
def readFrom (r : Reading) : List String → Except Detour Invocation
  | [] => .error .misuse
  | arg :: args =>
      match (Task.ofName? arg).filter fun _ => !r.awaitsConfig with
      | some task => do
          let (options, uri) ← readTask (.task task) {} none args
          if r.options.isConflict then throw .misuse
          pure ⟨r.options.merge options, task, uri⟩
      | none =>
          if arg = "help" && !r.awaitsConfig then .error (readHelp args)
          else if arg = separator then .error .misuse
          else do
            match ← readArgument .program r arg with
            | some r => readFrom r args
            | none => throw .misuse

def read (args : List String) : Except Detour Invocation :=
  readFrom {} args

end Invocation

end SshTunnel.CommandLine
