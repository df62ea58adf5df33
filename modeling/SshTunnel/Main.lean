import SshTunnel.CommandLine.Surroundings

/-!
# The command line

The program looks at its surroundings, makes the report of its run, and prints it. It shows plans;
it brings no transport of its own, so that connections are made by programs that use the library.
-/

namespace SshTunnel.CommandLine

def noTransport : Dialer := fun route target _ =>
  .error (.dialFailed (route.endpoint target) "no transport available")

/-- The node at a path. What can be neither read nor listed is taken for a socket. -/
def readNode (path : String) : IO (Option Node) := do
  match ← (IO.FS.readBinFile path).toBaseIO with
  | .ok octets => pure (some (.file octets.toList))
  | .error (.noFileOrDirectory ..) => pure none
  | .error (.inappropriateType ..) => pure (some .directory)
  | .error _ => pure (some (.socket (some .silent)))

def readEnvironment (names : List String) : IO Environment := do
  let vars ← names.filterMapM fun name => do
    pure ((← IO.getEnv name).map (name, ·))
  pure ⟨vars, (← IO.getEnv "USER").filter (· ≠ "")⟩

def readFiles (paths : List String) : IO FileSystem := do
  let start := FileSystem.plainPath [] (toString (← IO.currentDir))
  let entries ← paths.filterMapM fun path => do
    pure ((← readNode path).map (FileSystem.plainPath start path, ·))
  pure ⟨start, entries⟩

def readReport (args : List String) : IO Report := do
  match Invocation.read args with
  | .error detour => pure (.ofDetour detour)
  | .ok invocation =>
      let env ← readEnvironment invocation.variableNames
      let files ← readFiles (invocation.paths env)
      pure (invocation.perform env files noTransport)

end SshTunnel.CommandLine

open SshTunnel.CommandLine in
/-- Prints the report of a run; the exit code tells whether it went well. -/
def main (args : List String) : IO UInt32 := do
  let report ← readReport args
  IO.print report.stdout
  IO.eprint report.stderr
  if report.code = 2 then IO.eprint Topic.program.text
  pure report.code.toUInt32
