import Mathlib.Data.List.TakeWhile
import SshTunnel.ClientConfig

/-!
# What the lines of a client configuration say

A line has a keyword, which ends at the first blank or equals sign, and an argument, which may be
empty. If neither is empty the line is a directive, and what it says (`Saying`) depends on the two
alone (`saying?_of_keyword?`). A reading of a text takes in one saying after the other
(`Reading.take`). `Reading.get?_take` and `Reading.active_take` tell what one of them changes: the
values that are found, and whether settings count for a host from there on.
-/

namespace SshTunnel.ClientConfig

inductive Saying where
  /-- What follows is for the hosts that match the patterns. -/
  | host (patterns : List String)
  /-- What follows is under a condition that is not evaluated. -/
  | condition (text : String)
  /-- Files to include, which are not read. -/
  | inclusion (text : String)
  /-- The value of a keyword in lower case. -/
  | setting (keyword value : String)
  deriving DecidableEq, Repr

def patternsOf (argument : List Char) : List String :=
  (Text.words argument).map fun w => String.ofList (unquote w)

namespace Saying

def of (keyword : String) (argument : List Char) : Saying :=
  if keyword = "host" then .host (patternsOf argument)
  else if keyword = "match" then .condition (String.ofList argument)
  else if keyword = "include" then .inclusion (String.ofList argument)
  else .setting keyword (String.ofList (unquote argument))

def value? (keyword : String) : Saying → Option String
  | .setting k v => if k = keyword then some v else none
  | _ => none

/-- Whether settings count for the host from here on, given whether they did before. -/
def activeAfter (host : String) (active : Bool) : Saying → Bool
  | .host patterns => Glob.listMatches patterns host
  | .condition _ => false
  | _ => active

def skipped? : Saying → Option String
  | .condition text => some ("Match " ++ text)
  | .inclusion text => some ("Include " ++ text)
  | _ => none

theorem value?_eq_some_iff {s : Saying} {keyword v : String} :
    s.value? keyword = some v ↔ s = .setting keyword v := by
  cases s with
  | setting k w => by_cases hk : k = keyword <;> simp [value?, hk]
  | _ => simp [value?]

theorem activeAfter_of (host keyword : String) (argument : List Char) (active : Bool) :
    (of keyword argument).activeAfter host active =
      if keyword = "host" then Glob.listMatches (patternsOf argument) host
      else if keyword = "match" then false else active := by
  rw [of]
  split
  · rfl
  split
  · rfl
  split <;> rfl

end Saying

/-- What a line says. Blank lines, comments and lines that are no directive say nothing. -/
def saying? (line : List Char) : Option Saying :=
  let line := Text.trim line
  if line = [] ∨ line.head? = some '#' then none
  else (splitDirective line).map fun (key, value) => .of (String.ofList (Text.lower key)) value

/-! ## Keyword and argument -/

/-- The keyword of a line in lower case, whatever follows it. Blank lines and comments have none. -/
def keyword? (line : List Char) : Option String :=
  let line := Text.trim line
  if line = [] ∨ line.head? = some '#' then none
  else some (String.ofList (Text.lower (line.takeWhile (!endsKeyword ·))))

def argument (line : List Char) : List Char :=
  Text.trim (dropEquals (Text.trimStart ((Text.trim line).dropWhile (!endsKeyword ·))))

theorem splitDirective_eq (line : List Char) :
    splitDirective line =
      let key := line.takeWhile (!endsKeyword ·)
      let value := Text.trim (dropEquals (Text.trimStart (line.dropWhile (!endsKeyword ·))))
      if key = [] ∨ value = [] then none else some (key, value) := by
  rw [splitDirective]
  dsimp only
  cases hends : line.any endsKeyword with
  | false =>
      -- where nothing ends the keyword nothing is left for a value
      have hdrop : line.dropWhile (!endsKeyword ·) = [] := by
        rw [List.dropWhile_eq_nil_iff]
        intro c hc
        simpa using List.any_eq_false.1 hends c hc
      simp [hdrop, dropEquals]
  | true =>
      split
      · next h => simp_all
      · next h => simp_all

theorem saying?_of_keyword? {line : List Char} {keyword : String}
    (h : keyword? line = some keyword) (hne : keyword ≠ "") :
    saying? line = if argument line = [] then none else some (.of keyword (argument line)) := by
  rw [keyword?] at h
  rw [saying?, argument]
  dsimp only at h ⊢
  split at h
  · simp at h
  · next hline =>
      have hkey : (Text.trim line).takeWhile (!endsKeyword ·) ≠ [] := by
        intro hnil
        simp [hnil] at h
        exact hne h
      rw [if_neg hline, splitDirective_eq, ← Option.some.inj h]
      dsimp only
      split
      · next hempty => simp [hempty.resolve_left hkey]
      · next hempty => simp [(not_or.1 hempty).2]

theorem exists_keyword?_of_saying? {line : List Char} {s : Saying} (h : saying? line = some s) :
    ∃ keyword, keyword? line = some keyword ∧ s = .of keyword (argument line) := by
  rw [saying?] at h
  rw [keyword?, argument]
  dsimp only at h ⊢
  split at h
  · simp at h
  · next hline =>
      rw [splitDirective_eq] at h
      dsimp only at h
      split at h
      · simp at h
      · rw [if_neg hline]
        exact ⟨_, rfl, by simpa using h.symm⟩

/-! ## Sections -/

def Section.value? (s : Section) (host keyword : String) : Option String :=
  if s.appliesTo host then (s.directives.find? (·.keyword = keyword)).map (·.value) else none

theorem get?_append_section (sections : List Section) (s : Section) (skipped : List String)
    (host keyword : String) :
    get? ⟨sections ++ [s], skipped⟩ host keyword =
      (get? ⟨sections, skipped⟩ host keyword).or (s.value? host (Text.lowerString keyword)) := by
  rw [get?, get?, Section.value?, List.filter_append, List.flatMap_append, List.find?_append]
  by_cases hs : s.appliesTo host = true
  · simp [hs, Option.map_or]
  · simp [hs]

theorem Section.value?_append (s : Section) (k v host keyword : String) :
    Section.value? { s with directives := s.directives ++ [⟨k, v⟩] } host keyword =
      (s.value? host keyword).or
        (if s.appliesTo host then (Saying.setting k v).value? keyword else none) := by
  have hsame : Section.appliesTo { s with directives := s.directives ++ [⟨k, v⟩] } host =
      s.appliesTo host := rfl
  rw [Section.value?, Section.value?, hsame]
  by_cases hs : s.appliesTo host = true
  · rw [if_pos hs, if_pos hs, if_pos hs, List.find?_append, Option.map_or]
    by_cases hk : k = keyword <;> simp [hk, Saying.value?]
  · simp [hs]

/-! ## One more saying -/

namespace Reading

variable (r : Reading) (host keyword : String)

/-- The configuration as far as it has been read. -/
def config : ClientConfig :=
  { sections := r.sections ++ [r.current], skipped := r.skipped }

/-- Whether a setting on the next line counts for the host. -/
def active : Bool :=
  !r.inMatch && r.current.appliesTo host

def take : Saying → Reading
  | .host patterns =>
      { r with
        sections := r.sections ++ [r.current]
        current := ⟨some patterns, []⟩
        inMatch := false }
  | .condition text => { r with skipped := r.skipped ++ ["Match " ++ text], inMatch := true }
  | .inclusion text => { r with skipped := r.skipped ++ ["Include " ++ text] }
  | .setting k v =>
      if r.inMatch then r
      else { r with current := { r.current with directives := r.current.directives ++ [⟨k, v⟩] } }

theorem directive_eq_take (key value : List Char) :
    r.directive key value = r.take (.of (String.ofList (Text.lower key)) value) := by
  rw [directive, Saying.of]
  dsimp only
  split
  · rfl
  split
  · rfl
  split <;> rfl

theorem line_eq_take (line : List Char) : r.line line = ((saying? line).map r.take).getD r := by
  rw [Reading.line, saying?]
  dsimp only
  split
  · rfl
  · cases splitDirective (Text.trim line) with
    | none => rfl
    | some directive => exact r.directive_eq_take directive.1 directive.2

theorem active_take (s : Saying) : (r.take s).active host = s.activeAfter host (r.active host) := by
  cases s with
  | host patterns => rfl
  | condition text => rfl
  | inclusion text => rfl
  | setting k v =>
      rw [take]
      split <;> rfl

theorem get?_take (s : Saying) :
    (r.take s).config.get? host keyword =
      (r.config.get? host keyword).or
        (if r.active host then s.value? (Text.lowerString keyword) else none) := by
  cases s with
  | host patterns =>
      have hempty : Section.value? ⟨some patterns, []⟩ host (Text.lowerString keyword) = none := by
        simp [Section.value?]
      rw [config, take, get?_append_section, hempty]
      simp [config, Saying.value?]
  | condition text => simp [config, take, get?, Saying.value?]
  | inclusion text => simp [config, take, get?, Saying.value?]
  | setting k v =>
      rw [take]
      by_cases hmatch : r.inMatch = true
      · simp [active, hmatch]
      · rw [if_neg hmatch, config, get?_append_section, Section.value?_append, ← Option.or_assoc,
          config, get?_append_section]
        simp [active, hmatch]

theorem skipped_take (s : Saying) : (r.take s).skipped = r.skipped ++ s.skipped?.toList := by
  cases s with
  | host patterns => simp [take, Saying.skipped?]
  | condition text => rfl
  | inclusion text => rfl
  | setting k v =>
      rw [take]
      split <;> simp [Saying.skipped?]

end Reading

end SshTunnel.ClientConfig
