import SshTunnel.CommandLine.Arguments

/-!
# Help texts

A help text tells what a command is about and how it is used, and lists its parts in sections. The
explanations of a section start in one column.
-/

namespace SshTunnel.CommandLine

def programName : String := "sshdial"

def versionText : String := programName ++ " 0.1.0\n"

structure Section where
  heading : String
  rows : List (String × String)
  deriving DecidableEq, Repr

namespace Section

def width (s : Section) : Nat :=
  (s.rows.map fun (term, _) => term.length).foldl max 0

def renderRow (width : Nat) (term explanation : String) : String :=
  let gap := String.ofList (List.replicate (width - term.length + 2) ' ')
  "  " ++ term ++ gap ++ explanation ++ "\n"

def render (s : Section) : String :=
  s.heading ++ ":\n" ++ String.join (s.rows.map fun (term, e) => renderRow s.width term e)

end Section

def Task.about : Task → String
  | connect => "Resolve URI and bridge stdin/stdout to the remote socket"
  | plan => "Show how URI would be resolved, without dialing the host"

def Task.argument : Task → String
  | connect => "Connection URI, e.g. qemu+ssh://user@host/system?sshauth=agent"
  | plan => "Connection URI"

def helpAbout : String := "Print this message or the help of the given subcommand(s)"

namespace Topic

def about : Topic → String
  | program => "Open a stream to a remote unix socket over SSH"
  | task t => t.about
  | help => helpAbout

def usage : Topic → String
  | program => programName ++ " [OPTIONS] <COMMAND>"
  | task t => programName ++ " " ++ t.name ++ " [OPTIONS] <URI>"
  | help => programName ++ " help [COMMAND]..."

def commonRows : List (String × String) :=
  [("-v, --verbose", "Enable debug logging on stderr"),
    ("    --config <FILE>", "Resolver defaults (YAML)"),
    ("    --json", "Emit JSON events instead of text"),
    ("-q, --quiet", "Print only the essential result"),
    ("-h, --help", "Print help")]

def taskRow (t : Task) : String × String :=
  (t.name, t.about)

def sections : Topic → List Section
  | program =>
      [⟨"Commands", [taskRow .connect, taskRow .plan, ("help", helpAbout)]⟩,
        ⟨"Options", commonRows ++ [("-V, --version", "Print version")]⟩]
  | task t => [⟨"Arguments", [("<URI>", t.argument)]⟩, ⟨"Options", commonRows⟩]
  | help => [⟨"Arguments", [("[COMMAND]...", "Print help for the subcommand(s)")]⟩]

def text (t : Topic) : String :=
  t.about ++ "\n\nUsage: " ++ t.usage ++ "\n\n" ++ "\n".intercalate (t.sections.map Section.render)

end Topic

end SshTunnel.CommandLine
