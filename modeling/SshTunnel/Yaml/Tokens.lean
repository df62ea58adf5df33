import SshTunnel.Yaml.Property
import SshTunnel.Yaml.Scalar

/-!
# From texts to tokens

`tokens` takes a text apart. In a block, that a mapping starts, or that an entry has a key, shows
only at the colon after the key; the tokens for it are then put in before the key. A key of that
kind lies in one line and has at most 1024 characters.
-/

namespace SshTunnel.Yaml

structure KeyPlace where
  /-- How many tokens precede it. -/
  position : Nat
  /-- Whether a colon has to follow. -/
  required : Bool
  start : Cursor
  deriving DecidableEq, Repr

/-- What is known while a text is taken apart. -/
structure Reading where
  cursor : Cursor
  tokens : List Token := []
  /-- The column of the mapping, if one has started that needs no braces. -/
  indent : Option Nat := none
  /-- Whether the place is between braces. -/
  flow : Bool := false
  /-- Whether a key may start here. -/
  keyAllowed : Bool := true
  keyPlace : Option KeyPlace := none
  deriving DecidableEq, Repr

namespace Reading

def push (r : Reading) (token : Token) (next : Cursor) : Reading :=
  { r with tokens := r.tokens ++ [token], cursor := next }

def dropKey (r : Reading) : Except Fault Reading :=
  match r.keyPlace with
  | some k => if k.required then .error .noColon else .ok { r with keyPlace := none }
  | none => .ok r

def maxKeyLength : Nat := 1024

/-- Gives up the place of a key that lies in an earlier line or too far back. -/
def dropStaleKey (r : Reading) : Except Fault Reading :=
  match r.keyPlace with
  | some k =>
      if k.start.line < r.cursor.line ∨ k.start.index + maxKeyLength < r.cursor.index then r.dropKey
      else .ok r
  | none => .ok r

def saveKey (r : Reading) : Except Fault Reading :=
  if r.keyAllowed then do
    let required := !r.flow && r.indent = some r.cursor.column
    let r ← r.dropKey
    pure { r with keyPlace := some ⟨r.tokens.length, required, r.cursor⟩ }
  else .ok r

def unroll (r : Reading) (column : Option Nat) : Reading :=
  match r.flow, r.indent with
  | false, some n =>
      if column.all (· < n) then { r with tokens := r.tokens ++ [.blockEnd], indent := none } else r
  | _, _ => r

/-- Starts a mapping at a column if none has started there. `position` tokens precede it. -/
def roll (r : Reading) (column position : Nat) : Except Fault Reading :=
  match r.flow, r.indent with
  | true, _ => .ok r
  | false, none =>
      let tokens := r.tokens.take position ++ .blockStart :: r.tokens.drop position
      .ok { r with tokens, indent := some column }
  | false, some n => if n < column then .error .nested else .ok r

/-- Goes over spaces, comments and ends of lines. In a block, a tab may not stand where a key may
start. -/
def skipGap (fuel : Nat) (r : Reading) : Reading :=
  match fuel with
  | 0 => r
  | fuel + 1 =>
      let c := r.cursor
      let c := if c.index = 0 ∧ c.rest.head? = some '\ufeff' then c.skip 1 else c
      let c := c.skipWhile fun x => x = ' ' || ((r.flow || !r.keyAllowed) && x = '\t')
      let c := if c.rest.head? = some '#' then c.skipLine else c
      match c.look with
      | .lineEnd _ next =>
          skipGap fuel { r with cursor := next, keyAllowed := r.keyAllowed || !r.flow }
      | _ => { r with cursor := c }

/-- Reads a directive or a mark between documents, which end the mapping. -/
def atMargin (r : Reading) (token : Token) (next : Cursor) : Except Fault Reading := do
  let r ← (r.unroll none).dropKey
  pure { r.push token next with keyAllowed := false }

def openBrace (r : Reading) : Except Fault Reading := do
  if r.flow then throw .nested
  let r ← r.saveKey
  pure { r.push .flowStart (r.cursor.skip 1) with
    flow := true, keyAllowed := true, keyPlace := none }

def closeBrace (r : Reading) : Except Fault Reading := do
  if !r.flow then throw .misplaced
  let r ← r.dropKey
  pure { r.push .flowEnd (r.cursor.skip 1) with flow := false, keyAllowed := false }

def comma (r : Reading) : Except Fault Reading := do
  let r ← r.dropKey
  pure { r.push .flowEntry (r.cursor.skip 1) with keyAllowed := true }

def questionMark (r : Reading) : Except Fault Reading := do
  if !r.flow && !r.keyAllowed then throw .misplaced
  let r ← r.roll r.cursor.column r.tokens.length
  let r ← r.dropKey
  pure { r.push .key (r.cursor.skip 1) with keyAllowed := !r.flow }

def colon (r : Reading) : Except Fault Reading :=
  match r.keyPlace with
  | some k => do
      let tokens := r.tokens.take k.position ++ .key :: r.tokens.drop k.position
      let r ← { r with tokens, keyPlace := none }.roll k.start.column k.position
      pure { r.push .value (r.cursor.skip 1) with keyAllowed := false }
  | none => do
      if !r.flow && !r.keyAllowed then throw .misplaced
      let r ← r.roll r.cursor.column r.tokens.length
      pure { r.push .value (r.cursor.skip 1) with keyAllowed := !r.flow }

def anchor (r : Reading) (make : List Char → Token) : Except Fault Reading := do
  let r ← r.saveKey
  let (name, next) ← readAnchor (r.cursor.skip 1)
  pure { r.push (make name) next with keyAllowed := false }

def tag (r : Reading) : Except Fault Reading := do
  let r ← r.saveKey
  let (text, next) ← readTag r.flow r.cursor
  pure { r.push (.tag text) next with keyAllowed := false }

def blockScalar (r : Reading) (folded : Bool) : Except Fault Reading := do
  let r ← r.dropKey
  let s ← block folded r.indent (r.cursor.skip 1)
  pure { r.push (.scalar false s.text) s.next with keyAllowed := true }

def quotedScalar (r : Reading) (read : Cursor → Except Fault Scanned) : Except Fault Reading := do
  let r ← r.saveKey
  let s ← read (r.cursor.skip 1)
  pure { r.push (.scalar false s.text) s.next with keyAllowed := false }

/-- Reads a plain scalar. A key may start in the line that shows where the scalar ends. -/
def plainScalar (r : Reading) : Except Fault Reading := do
  let r ← r.saveKey
  let s ← plain r.flow ((r.indent.map (· + 1)).getD 0) r.cursor
  pure { r.push (.scalar true s.text) s.next with keyAllowed := s.newLine }

def startsPlain (flow : Bool) (c : Char) (rest : List Char) : Bool :=
  if c = '-' then !rest.head?.any isSpace
  else if c = '?' ∨ c = ':' then !flow && !isGap rest
  else !(isGap [c] || c ∈ [',', '[', ']', '{', '}', '#', '&', '*', '!', '|', '>', '\'', '"', '%',
    '@', '\x60'])

def token (r : Reading) (c : Char) (rest : List Char) : Except Fault Reading :=
  if r.cursor.column = 0 ∧ c = '%' then do
    let r ← (r.unroll none).dropKey
    let (token, next) ← readDirective (r.cursor.skip 1)
    pure { r.push token next with keyAllowed := false }
  else if r.cursor.atMark then
    r.atMargin (if c = '-' then .documentStart else .documentEnd) (r.cursor.skip 3)
  else if c = '[' ∨ c = ']' ∨ (c = '-' ∧ isGap rest) then .error .nested
  else if c = '{' then r.openBrace
  else if c = '}' then r.closeBrace
  else if c = ',' then r.comma
  else if c = '?' ∧ (r.flow ∨ isGap rest) then r.questionMark
  else if c = ':' ∧ (r.flow ∨ isGap rest) then r.colon
  else if c = '*' then r.anchor .alias
  else if c = '&' then r.anchor .anchor
  else if c = '!' then r.tag
  else if c = '|' ∧ !r.flow then r.blockScalar false
  else if c = '>' ∧ !r.flow then r.blockScalar true
  else if c = '\'' then r.quotedScalar singleQuoted
  else if c = '"' then r.quotedScalar doubleQuoted
  else if startsPlain r.flow c rest then r.plainScalar
  else .error .misplaced

def toEnd (fuel : Nat) (r : Reading) : Except Fault Reading :=
  match fuel with
  | 0 => .error .misplaced
  | fuel + 1 => do
      let r ← (r.skipGap (r.cursor.rest.length + 1)).dropStaleKey
      let r := r.unroll (some r.cursor.column)
      match r.cursor.rest with
      | [] => (r.unroll none).dropKey
      | c :: rest => toEnd fuel (← r.token c rest)

end Reading

def isAllowed (c : Char) : Bool :=
  let n := c.toNat
  n = 0x09 || n = 0x0A || n = 0x0D || (0x20 ≤ n && n ≤ 0x7E) || n = 0x85 ||
    (0xA0 ≤ n && n ≤ 0xFFFD) || 0x10000 ≤ n

def dropMark : List Char → List Char
  | '\ufeff' :: s => s
  | s => s

def tokens (text : List Char) : Except Fault (List Token) :=
  match (dropMark text).find? (!isAllowed ·) with
  | some c => .error (.control c)
  | none => do
      let r ← Reading.toEnd (text.length + 2) { cursor := ⟨dropMark text, 0, 0, 0⟩ }
      pure r.tokens

end SshTunnel.Yaml
