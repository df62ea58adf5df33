/-!
# Cursors

A cursor is a place in a text with the number of its line and column. `Cursor.look` tells what
stands at a cursor: a character, the end of a line, or nothing. The ends of lines that texts know
are all taken for a line feed, but for the line and the paragraph separator.
-/

namespace SshTunnel.Yaml

structure Cursor where
  rest : List Char
  column : Nat := 0
  line : Nat := 0
  /-- How many characters precede the place. -/
  index : Nat := 0
  deriving DecidableEq, Repr

inductive Look where
  | char (c : Char) (next : Cursor)
  /-- The end of a line, as the character it is taken for. -/
  | lineEnd (c : Char) (next : Cursor)
  | nothing
  deriving DecidableEq, Repr

def isLineEnd (c : Char) : Bool :=
  c ∈ ['\n', '\r', '\u0085', '\u2028', '\u2029']

def isSpace (c : Char) : Bool :=
  c = ' ' || c = '\t'

/-- Whether a text has no word at its start: it is empty, or it starts with a space or the end of a
line. -/
def isGap : List Char → Bool
  | [] => true
  | c :: _ => isSpace c || isLineEnd c

namespace Cursor

def following (c : Cursor) (rest : List Char) : Cursor :=
  { c with rest, column := c.column + 1, index := c.index + 1 }

def newLine (c : Cursor) (rest : List Char) (count : Nat) : Cursor :=
  { rest, column := 0, line := c.line + 1, index := c.index + count }

def look (c : Cursor) : Look :=
  match c.rest with
  | [] => .nothing
  | '\r' :: '\n' :: rest => .lineEnd '\n' (c.newLine rest 2)
  | x :: rest =>
      if x = '\u2028' ∨ x = '\u2029' then .lineEnd x (c.newLine rest 1)
      else if isLineEnd x then .lineEnd '\n' (c.newLine rest 1)
      else .char x (c.following rest)

theorem length_lt_of_look {c next : Cursor} {x : Char}
    (h : c.look = .char x next ∨ c.look = .lineEnd x next) :
    next.rest.length < c.rest.length := by
  unfold look at h
  split at h
  · simp at h
  · next e =>
      obtain ⟨-, rfl⟩ : '\n' = x ∧ _ = next := by simpa using h
      simp only [e, newLine, List.length_cons]
      omega
  · next e =>
      split at h
      · obtain ⟨-, rfl⟩ : _ = x ∧ _ = next := by simpa using h
        simp [e, newLine]
      · split at h
        · obtain ⟨-, rfl⟩ : _ = x ∧ _ = next := by simpa using h
          simp [e, newLine]
        · obtain ⟨-, rfl⟩ : _ = x ∧ _ = next := by simpa using h
          simp [e, following]

def skip (c : Cursor) (n : Nat) : Cursor :=
  { c with rest := c.rest.drop n, column := c.column + n, index := c.index + n }

/-- The characters of a class at a place, and the place after them. None of them ends a line. -/
def takeWhile (c : Cursor) (p : Char → Bool) : List Char × Cursor :=
  let word := c.rest.takeWhile p
  (word, c.skip word.length)

def skipWhile (c : Cursor) (p : Char → Bool) : Cursor :=
  (c.takeWhile p).2

def skipLine (c : Cursor) : Cursor :=
  c.skipWhile (!isLineEnd ·)

def skipLineEnd (c : Cursor) : Cursor :=
  match c.look with
  | .lineEnd _ next => next
  | _ => c

def atMark (c : Cursor) : Bool :=
  c.column = 0 &&
    match c.rest with
    | '-' :: '-' :: '-' :: rest => isGap rest
    | '.' :: '.' :: '.' :: rest => isGap rest
    | _ => false

end Cursor

end SshTunnel.Yaml
