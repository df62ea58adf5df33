import SshTunnel.Text.Lower

/-!
# Host patterns

A pattern is compared with a host without regard to letter case; a star stands for any characters
and a question mark for one. `matchesFrom` is a greedy match: up to the first star it goes through
pattern and host side by side (`advance`), and for every star it looks for the first place of the
host where the part up to the next star fits. Earlier stars are not tried again.

In a list of patterns those after an exclamation mark are negated: `listMatches` wants one plain
pattern that matches and no negated one that does.
-/

namespace SshTunnel.Glob

/-- How far a pattern goes along a host without a star. -/
inductive Progress where
  /-- The host is used up; `rest` is left of the pattern. -/
  | hostEnd (rest : List Char)
  /-- A star is reached; `pattern` follows it and `host` is left. -/
  | star (pattern host : List Char)
  /-- The next characters differ. -/
  | stuck
  deriving DecidableEq, Repr

/-- Goes along pattern and host for as long as their characters agree. A star that faces a star of
the host is taken for that character. -/
def advance : (pattern host : List Char) → Progress
  | p, [] => .hostEnd p
  | [], _ :: _ => .stuck
  | x :: p, c :: h =>
      if x = '?' ∨ x = c then advance p h
      else if x = '*' then .star p (c :: h)
      else .stuck

/-- Whether a pattern matches the empty text. -/
def onlyStars (pattern : List Char) : Bool :=
  pattern.all (· = '*')

theorem length_lt_of_advance {p h p' h' : List Char} (e : advance p h = .star p' h') :
    p'.length < p.length := by
  induction p generalizing h with
  | nil => cases h <;> simp [advance] at e
  | cons x p ih =>
      cases h with
      | nil => simp [advance] at e
      | cons c h =>
          rw [advance] at e
          split at e
          · exact Nat.lt_succ_of_lt (ih e)
          · split at e
            · simp_all
            · simp at e

/-- Matches the pattern after a star: at the start of the host, or failing that, one character
further on. -/
def afterStar (pattern host : List Char) : Bool :=
  match _h : advance pattern host with
  | .hostEnd rest => onlyStars rest
  | .star p h => afterStar p h
  | .stuck =>
      match host with
      | [] => false
      | _ :: h => afterStar pattern h
  termination_by (pattern.length, host.length)
  decreasing_by
    · have := length_lt_of_advance _h
      exact Prod.Lex.left _ _ this
    · exact Prod.Lex.right _ (by simp)

/-- Matches a pattern with a host, both in lower case. -/
def matchesFrom (pattern host : List Char) : Bool :=
  match advance pattern host with
  | .hostEnd rest => onlyStars rest
  | .star p h => afterStar p h
  | .stuck => false

/-- Whether a pattern matches a host, letter case aside. -/
def wildcardMatches (pattern host : String) : Bool :=
  matchesFrom (Text.lower pattern.toList) (Text.lower host.toList)

def negated? (pattern : String) : Option String :=
  match pattern.toList with
  | '!' :: p => some (String.ofList p)
  | _ => none

/-- Goes through a list of patterns; `found` tells whether a plain one has matched so far. -/
def listMatchesFrom (host : String) (found : Bool) : List String → Bool
  | [] => found
  | pattern :: patterns =>
      match negated? pattern with
      | some p => if wildcardMatches p host then false else listMatchesFrom host found patterns
      | none => listMatchesFrom host (found || wildcardMatches pattern host) patterns

def listMatches (patterns : List String) (host : String) : Bool :=
  listMatchesFrom host false patterns

theorem listMatches_nil (host : String) : listMatches [] host = false := rfl

end SshTunnel.Glob
