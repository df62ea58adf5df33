import SshTunnel.Environment.Basic

/-!
# Path templates

A path template holds references to variables, `${name}` or `$name`, and may start with a tilde
for the home directory. `segments` takes a template apart, and `expand` puts the values of an
environment in the places of the references. Values are not looked through again.
-/

namespace SshTunnel.Template

inductive Segment where
  /-- A character that stands for itself. -/
  | char (c : Char)
  /-- A reference to a variable. -/
  | reference (name : List Char)
  deriving DecidableEq, Repr

def isNameChar (c : Char) : Bool :=
  c = '_' || c.isAlphanum

/-- The parts of a template without a tilde. A dollar sign that starts no reference stands for
itself. -/
def segments : List Char → List Segment
  | [] => []
  | c :: s =>
      if c = '$' then
        match s with
        | '{' :: r =>
            match _h : Text.splitFirst (· = '}') r with
            | some (name, rest) => .reference name :: segments rest
            | none => .char '$' :: segments ('{' :: r)
        | s =>
            if s.takeWhile isNameChar = [] then .char '$' :: segments s
            else .reference (s.takeWhile isNameChar) :: segments (s.dropWhile isNameChar)
      else .char c :: segments s
  termination_by s => s.length
  decreasing_by
    · have := Text.length_lt_of_splitFirst _h
      simp
      omega
    · simp
    · simp
    · have := (List.dropWhile_suffix (l := s) isNameChar).length_le
      simp
      omega
    · simp

/-- The parts of a template. A tilde that is all of it, or that a slash follows, refers to the
home directory. -/
def read (template : List Char) : List Segment :=
  match template with
  | ['~'] => [.reference "HOME".toList]
  | '~' :: '/' :: s => .reference "HOME".toList :: segments ('/' :: s)
  | s => segments s

/-- What a part of a template stands for; nothing, for a variable that is not set. -/
def Segment.value (env : Environment) : Segment → List Char
  | char c => [c]
  | reference name => ((env.var (String.ofList name)).getD "").toList

def expand (env : Environment) (template : String) : String :=
  String.ofList ((read template.toList).flatMap (·.value env))

end SshTunnel.Template
