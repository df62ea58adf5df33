import SshTunnel.Glob
import SshTunnel.Text.Split

/-!
# Client configuration files

A client configuration consists of sections: what precedes the first `Host` line, and what follows
each of them. `ClientConfig.ofText` reads the sections of a text, and `ClientConfig.get?` looks for
the first value of a keyword in the sections that apply to a host. `Match` and `Include` lines are
not evaluated; they are listed as skipped, and nothing after a `Match` line counts until the next
`Host` line.
-/

namespace SshTunnel

namespace ClientConfig

/-- A line of a section: a keyword in lower case and its value. -/
structure Directive where
  keyword : String
  value : String
  deriving DecidableEq, Repr

/-- Directives that apply to the same hosts. -/
structure Section where
  /-- The patterns of the hosts; the section before the first `Host` line applies to all hosts. -/
  patterns : Option (List String)
  directives : List Directive
  deriving DecidableEq, Repr

def Section.appliesTo (s : Section) (host : String) : Bool :=
  match s.patterns with
  | none => true
  | some patterns => Glob.listMatches patterns host

end ClientConfig

/-- The sections of a client configuration, and the lines that are not evaluated. -/
structure ClientConfig where
  sections : List ClientConfig.Section := []
  skipped : List String := []
  deriving DecidableEq, Repr

namespace ClientConfig

def unquote (value : List Char) : List Char :=
  match value with
  | '"' :: rest => if rest.getLast? = some '"' then rest.dropLast else value
  | _ => value

def endsKeyword (c : Char) : Bool :=
  Text.isBlank c || c = '='

def dropEquals : List Char → List Char
  | '=' :: s => s
  | s => s

/-- The keyword and the value of a line without blanks around it. Blanks or an equals sign stand
between them; neither may be missing. -/
def splitDirective (line : List Char) : Option (List Char × List Char) :=
  let key := line.takeWhile (!endsKeyword ·)
  let value := Text.trim (dropEquals (Text.trimStart (line.dropWhile (!endsKeyword ·))))
  if line.any endsKeyword && key ≠ [] && value ≠ [] then some (key, value) else none

/-- What is known while a text is read. -/
structure Reading where
  /-- The sections that are complete. -/
  sections : List Section := []
  /-- The section that is being read. -/
  current : Section := ⟨none, []⟩
  skipped : List String := []
  /-- Whether a `Match` line was read after the last `Host` line. -/
  inMatch : Bool := false
  deriving DecidableEq, Repr

def Reading.directive (r : Reading) (keyword value : List Char) : Reading :=
  let keyword := String.ofList (Text.lower keyword)
  let text := String.ofList value
  if keyword = "host" then
    { r with
      sections := r.sections ++ [r.current]
      current := ⟨some ((Text.words value).map fun w => String.ofList (unquote w)), []⟩
      inMatch := false }
  else if keyword = "match" then
    { r with skipped := r.skipped ++ ["Match " ++ text], inMatch := true }
  else if keyword = "include" then { r with skipped := r.skipped ++ ["Include " ++ text] }
  else if r.inMatch then r
  else
    let entry : Directive := ⟨keyword, String.ofList (unquote value)⟩
    { r with current := { r.current with directives := r.current.directives ++ [entry] } }

/-- Takes in a line. Blank lines, comments and lines that are no directive say nothing. -/
def Reading.line (r : Reading) (line : List Char) : Reading :=
  let line := Text.trim line
  if line = [] ∨ line.head? = some '#' then r
  else
    match splitDirective line with
    | none => r
    | some (keyword, value) => r.directive keyword value

def ofText (text : String) : ClientConfig :=
  let r := (Text.lines text.toList).foldl Reading.line {}
  { sections := r.sections ++ [r.current], skipped := r.skipped }

def get? (config : ClientConfig) (host keyword : String) : Option String :=
  let keyword := Text.lowerString keyword
  ((config.sections.filter (·.appliesTo host)).flatMap (·.directives)).find?
    (·.keyword = keyword) |>.map (·.value)

end ClientConfig

end SshTunnel
