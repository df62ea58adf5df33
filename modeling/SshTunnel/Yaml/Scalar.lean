import SshTunnel.IpAddress
import SshTunnel.Yaml.Cursor
import SshTunnel.Yaml.Token

/-!
# Scalars of YAML

`plain`, `singleQuoted`, `doubleQuoted` and `block` read a scalar in one of its spellings. A scalar
may go over several lines; a `Gap` collects what lies between two of its words and tells what it
stands for.
-/

namespace SshTunnel.Yaml

/-- What lies between two words of a scalar. -/
structure Gap where
  /-- The spaces in the line of the first word. -/
  spaces : List Char := []
  /-- The first end of a line; an escaped one is empty. -/
  lineEnd : Option (List Char) := none
  /-- The ends of lines after the first. -/
  more : List Char := []
  deriving DecidableEq, Repr

namespace Gap

def isEmpty (g : Gap) : Bool :=
  g.spaces = [] && g.lineEnd = none

def space (g : Gap) (c : Char) : Gap :=
  if g.lineEnd = none then { g with spaces := g.spaces ++ [c] } else g

def newLine (g : Gap) (c : Char) : Gap :=
  if g.lineEnd = none then { lineEnd := some [c] } else { g with more := g.more ++ [c] }

/-- What a gap stands for: one line feed becomes a space, and the first of several is dropped. -/
def text (g : Gap) : List Char :=
  match g.lineEnd with
  | none => g.spaces
  | some ['\n'] => if g.more = [] then [' '] else g.more
  | some first => first ++ g.more

end Gap

/-- The characters that end a plain scalar inside braces. -/
def isFlowSign (c : Char) : Bool :=
  c ∈ [',', '[', ']', '{', '}']

structure Scanned where
  text : List Char
  /-- Whether the scalar was found to end only in a later line. -/
  newLine : Bool := false
  next : Cursor
  deriving DecidableEq, Repr

/-- Reads a plain scalar on, after some text, which is held backwards, and a gap. Lines inside it
are indented so far. -/
def plainFrom (flow : Bool) (indent : Nat) (text : List Char) (gap : Gap) (c : Cursor) :
    Except Fault Scanned :=
  let done : Scanned := ⟨text.reverse, gap.lineEnd.isSome, c⟩
  match _h : c.look with
  | .nothing => .ok done
  | .lineEnd x next => plainFrom flow indent text (gap.newLine x) next
  | .char x next =>
      if isSpace x then
        if gap.lineEnd.isSome ∧ c.column < indent ∧ x = '\t' then .error .indentation
        else plainFrom flow indent text (gap.space x) next
      else if !gap.isEmpty && ((!flow && c.column < indent) || c.atMark || x = '#') then .ok done
      else if flow && x = ':' && next.rest.head?.any (fun y => isFlowSign y || y = '?') then
        .error .badScalar
      else if (x = ':' && isGap next.rest) || (flow && isFlowSign x) then .ok done
      else plainFrom flow indent (x :: gap.text.reverse ++ text) {} next
  termination_by c.rest.length
  decreasing_by
    all_goals
      apply Cursor.length_lt_of_look
      first
        | exact .inl _h
        | exact .inr _h

def plain (flow : Bool) (indent : Nat) (c : Cursor) : Except Fault Scanned :=
  plainFrom flow indent [] {} c

def singleQuotedFrom (text : List Char) (gap : Gap) (c : Cursor) : Except Fault Scanned :=
  match _h : c.look with
  | .nothing => .error .badScalar
  | .lineEnd x next => singleQuotedFrom text (gap.newLine x) next
  | .char x next =>
      if isSpace x then singleQuotedFrom text (gap.space x) next
      else if c.atMark then .error .badScalar
      else if x = '\'' then
        match _h' : next.look with
        | .char '\'' next' => singleQuotedFrom ('\'' :: gap.text.reverse ++ text) {} next'
        | _ => .ok ⟨text.reverse ++ gap.text, false, next⟩
      else singleQuotedFrom (x :: gap.text.reverse ++ text) {} next
  termination_by c.rest.length
  decreasing_by
    · exact Cursor.length_lt_of_look (.inr _h)
    · exact Cursor.length_lt_of_look (.inl _h)
    · exact Nat.lt_trans (Cursor.length_lt_of_look (.inl _h')) (Cursor.length_lt_of_look (.inl _h))
    · exact Cursor.length_lt_of_look (.inl _h)

def singleQuoted (c : Cursor) : Except Fault Scanned :=
  singleQuotedFrom [] {} c

/-- What an escape of one character stands for, or how many hexadecimal digits follow it. -/
def escape? (c : Char) : Option (Char ⊕ Nat) :=
  match c with
  | '0' => some (.inl '\x00')
  | 'a' => some (.inl '\x07')
  | 'b' => some (.inl '\x08')
  | 't' | '\t' => some (.inl '\t')
  | 'n' => some (.inl '\n')
  | 'v' => some (.inl '\x0B')
  | 'f' => some (.inl '\x0C')
  | 'r' => some (.inl '\r')
  | 'e' => some (.inl '\x1B')
  | ' ' => some (.inl ' ')
  | '"' => some (.inl '"')
  | '/' => some (.inl '/')
  | '\\' => some (.inl '\\')
  | 'N' => some (.inl '\u0085')
  | '_' => some (.inl '\u00A0')
  | 'L' => some (.inl '\u2028')
  | 'P' => some (.inl '\u2029')
  | 'x' => some (.inr 2)
  | 'u' => some (.inr 4)
  | 'U' => some (.inr 8)
  | _ => none

/-- The character that so many hexadecimal digits at a place stand for. -/
def readCode (count : Nat) (c : Cursor) : Except Fault Char :=
  let digits := c.rest.take count
  match digits.mapM IpAddress.hexValue? with
  | none => .error .badEscape
  | some values =>
      let n := values.foldl (fun n v => 16 * n + v) 0
      if digits.length = count ∧ n.isValidChar then .ok (Char.ofNat n) else .error .badEscape

/-- The character that an escape at a place stands for, after its backslash, and how long the
escape is. -/
def readEscape (c : Cursor) : Except Fault (Char × Nat) :=
  match c.rest with
  | [] => .error .badEscape
  | x :: _ =>
      match escape? x with
      | none => .error .badEscape
      | some (.inl y) => .ok (y, 1)
      | some (.inr count) => (readCode count (c.skip 1)).map fun y => (y, 1 + count)

def doubleQuotedFrom (text : List Char) (gap : Gap) (c : Cursor) : Except Fault Scanned :=
  match _h : c.look with
  | .nothing => .error .badScalar
  | .lineEnd x next => doubleQuotedFrom text (gap.newLine x) next
  | .char x next =>
      if isSpace x then doubleQuotedFrom text (gap.space x) next
      else if c.atMark then .error .badScalar
      else
        let text := gap.text.reverse ++ text
        if x = '"' then .ok ⟨text.reverse, false, next⟩
        else if x = '\\' then
          match _h' : next.look with
          | .lineEnd _ next' => doubleQuotedFrom text { lineEnd := some [] } next'
          | _ =>
              match readEscape next with
              | .error fault => .error fault
              | .ok (y, length) => doubleQuotedFrom (y :: text) {} (next.skip length)
        else doubleQuotedFrom (x :: text) {} next
  termination_by c.rest.length
  decreasing_by
    · exact Cursor.length_lt_of_look (.inr _h)
    · exact Cursor.length_lt_of_look (.inl _h)
    · exact Nat.lt_trans (Cursor.length_lt_of_look (.inr _h')) (Cursor.length_lt_of_look (.inl _h))
    · have := Cursor.length_lt_of_look (.inl _h)
      simp [Cursor.skip]
      omega
    · exact Cursor.length_lt_of_look (.inl _h)

def doubleQuoted (c : Cursor) : Except Fault Scanned :=
  doubleQuotedFrom [] {} c

/-- Which ends of lines are kept at the end of a block scalar. -/
inductive Chomping where
  | strip | clip | keep
  deriving DecidableEq, Repr

def chomping? : Char → Option Chomping
  | '-' => some .strip
  | '+' => some .keep
  | _ => none

/-- The signs of a block scalar: its chomping, and how far it is indented, if that is told. -/
def readHeader (c : Cursor) : Except Fault ((Chomping × Option Nat) × Cursor) := do
  let sign (c : Cursor) : Option Chomping × Cursor :=
    match c.rest.head?.bind chomping? with
    | some chomping => (some chomping, c.skip 1)
    | none => (none, c)
  let digit (c : Cursor) : Except Fault (Option Nat × Cursor) :=
    match c.rest with
    | x :: _ =>
        if x = '0' then .error .badScalar
        else if Text.isDigit x then .ok (some (Text.digitValue x), c.skip 1)
        else .ok (none, c)
    | [] => .ok (none, c)
  let (before, c) := sign c
  let (indent, c) ← digit c
  let (after, c) := if before = none ∧ indent ≠ none then sign c else (none, c)
  pure (((before.or after).getD .clip, indent), c)

/-- The ends of lines before the next line of a block scalar. -/
structure BlockGap where
  /-- How far the scalar is indented; `none` as long as that is not known. -/
  indent : Option Nat
  /-- How far any of the lines so far is indented. -/
  widest : Nat := 0
  lineEnds : List Char := []
  next : Cursor
  deriving DecidableEq, Repr

/-- Whether a place is to the left of the text of a block scalar. -/
def isBefore (indent : Option Nat) (column : Nat) : Bool :=
  match indent with
  | none => true
  | some n => column < n

def skipIndent (indent : Option Nat) (c : Cursor) : Cursor :=
  let spaces := (c.rest.takeWhile (· = ' ')).length
  match indent with
  | none => c.skip spaces
  | some n => c.skip (min spaces (n - c.column))

def blockGap (fuel : Nat) (g : BlockGap) : Except Fault BlockGap :=
  match fuel with
  | 0 => .ok g
  | fuel + 1 =>
      let c := skipIndent g.indent g.next
      let g := { g with widest := max g.widest c.column, next := c }
      if isBefore g.indent c.column && c.rest.head? = some '\t' then .error .indentation
      else
        match c.look with
        | .lineEnd x next => blockGap fuel { g with lineEnds := g.lineEnds ++ [x], next }
        | _ => .ok g

/-- What the end of a line between two lines of a folded scalar stands for. Lines that start with a
space keep the ends of lines around them. -/
def foldLine (folded : Bool) (lineEnd lineEnds : List Char) (indented : Bool) : List Char :=
  if folded && lineEnd.head? = some '\n' && !indented then
    (if lineEnds = [] then [' '] else []) ++ lineEnds
  else lineEnd ++ lineEnds

/-- The lines of a block scalar from one on. `lineEnd` is the end of the line before, and
`indented` tells whether that one starts with a space. -/
def blockLines (folded : Bool) (indent : Nat) (fuel : Nat) (text lineEnd : List Char)
    (indented : Bool) (g : BlockGap) : Except Fault (List Char × List Char × BlockGap) :=
  match fuel with
  | 0 => .ok (text, lineEnd, g)
  | fuel + 1 =>
      let c := g.next
      if c.column = indent ∧ c.rest ≠ [] then do
        let starts := c.rest.head?.any isSpace
        let (line, c) := c.takeWhile (!isLineEnd ·)
        let text := text ++ foldLine folded lineEnd g.lineEnds (indented || starts) ++ line
        let (lineEnd, c) :=
          match c.look with
          | .lineEnd x next => ([x], next)
          | _ => ([], c)
        let g ← blockGap (c.rest.length + 1) { indent := some indent, next := c }
        blockLines folded indent fuel text lineEnd starts g
      else .ok (text, lineEnd, g)

/-- Reads a block scalar, after its first sign, in a block that is indented so far. -/
def block (folded : Bool) (parent : Option Nat) (c : Cursor) : Except Fault Scanned := do
  let ((chomping, increment), c) ← readHeader c
  let c := c.skipWhile isSpace
  let c := if c.rest.head? = some '#' then c.skipLine else c
  if !(c.rest = [] || c.rest.head?.any isLineEnd) then throw .badScalar
  let c := c.skipLineEnd
  let told := increment.map (parent.getD 0 + ·)
  let g ← blockGap (c.rest.length + 1) { indent := told, next := c }
  let least := (parent.map (· + 1)).getD 0
  let indent := told.getD (max 1 (max g.widest least))
  let (text, lineEnd, g) ←
    blockLines folded indent (c.rest.length + 1) [] [] false { g with indent := some indent }
  let tail :=
    match chomping with
    | .strip => []
    | .clip => lineEnd
    | .keep => lineEnd ++ g.lineEnds
  pure ⟨text ++ tail, false, g.next⟩

end SshTunnel.Yaml
