import SshTunnel.IpAddress
import SshTunnel.Yaml.Cursor
import SshTunnel.Yaml.Token

/-!
# Anchors, tags and directives of YAML

An anchor names a scalar, a tag tells its kind, and a directive says something about the whole
document. `TagText.resolve` puts the two parts of a tag together.
-/

namespace SshTunnel.Yaml

/-- The characters of anchors, handles and names of directives. -/
def isNameChar (c : Char) : Bool :=
  c.isAlphanum || c = '_' || c = '-'

/-- The characters that tags are made of; inside angle brackets there are some more. -/
def isTagChar (bracketed : Bool) (c : Char) : Bool :=
  isNameChar c ||
    c ∈ [';', '/', '?', ':', '@', '&', '=', '+', '$', '.', '%', '!', '~', '*', '\'', '(', ')'] ||
    (bracketed && c ∈ [',', '[', ']'])

def readAnchor (c : Cursor) : Except Fault (List Char × Cursor) :=
  let (name, c) := c.takeWhile isNameChar
  let ends := isGap c.rest || c.rest.head?.any (· ∈ ['?', ':', ',', ']', '}', '%', '@', '\x60'])
  if name ≠ [] && ends then .ok (name, c) else .error .badProperty

def width? (first : Nat) : Option Nat :=
  if first < 0x80 then some 1
  else if 0xC0 ≤ first ∧ first < 0xE0 then some 2
  else if 0xE0 ≤ first ∧ first < 0xF0 then some 3
  else if 0xF0 ≤ first ∧ first < 0xF8 then some 4
  else none

/-- Replaces the escapes of a tag. `missing` counts the octets that the last character still
lacks, and `bits` holds what is known of it. -/
def unescapeTag (missing bits : Nat) : List Char → Option (List Char)
  | [] => if missing = 0 then some [] else none
  | '%' :: x :: y :: s => do
      let octet := 16 * (← IpAddress.hexValue? x) + (← IpAddress.hexValue? y)
      if missing = 0 then
        match ← width? octet with
        | 1 => (Char.ofNat octet :: ·) <$> unescapeTag 0 0 s
        | n + 1 => unescapeTag n (octet % 2 ^ (6 - n)) s
        | 0 => none
      else if 0x80 ≤ octet ∧ octet < 0xC0 then
        let bits := 64 * bits + octet % 64
        if missing = 1 then (Char.ofNat bits :: ·) <$> unescapeTag 0 0 s
        else unescapeTag (missing - 1) bits s
      else none
  | c :: s => if missing = 0 ∧ c ≠ '%' then (c :: ·) <$> unescapeTag 0 0 s else none

def readTagChars (bracketed : Bool) (c : Cursor) : Except Fault (List Char × Cursor) :=
  let (text, c) := c.takeWhile (isTagChar bracketed)
  match unescapeTag 0 0 text with
  | some text => .ok (text, c)
  | none => .error .badProperty

/-- Reads a handle: an exclamation mark, and possibly a name with another one after it. -/
def readHandle (c : Cursor) : List Char × Cursor :=
  let (name, c) := (c.skip 1).takeWhile isNameChar
  if c.rest.head? = some '!' then ('!' :: name ++ ['!'], c.skip 1) else ('!' :: name, c)

def readVerbatim (c : Cursor) : Except Fault (TagText × Cursor) := do
  let (suffix, c) ← readTagChars true c
  if suffix = [] ∨ c.rest.head? ≠ some '>' then throw .badProperty
  pure (⟨[], suffix⟩, c.skip 1)

def readShorthand (c : Cursor) : Except Fault (TagText × Cursor) := do
  let (handle, c) := readHandle c
  if 1 < handle.length ∧ handle.getLast? = some '!' then
    let (suffix, c) ← readTagChars false c
    if suffix = [] then throw .badProperty
    pure (⟨handle, suffix⟩, c)
  else
    let (more, c) ← readTagChars false c
    let suffix := handle.tail ++ more
    pure (if suffix = [] then ⟨[], ['!']⟩ else ⟨['!'], suffix⟩, c)

def readTag (flow : Bool) (c : Cursor) : Except Fault (TagText × Cursor) := do
  let (tag, c) ←
    match c.rest with
    | '!' :: '<' :: _ => readVerbatim (c.skip 2)
    | _ => readShorthand c
  if !(isGap c.rest || (flow && c.rest.head? = some ',')) then throw .badProperty
  pure (tag, c)

def standardHandles : List (List Char × List Char) :=
  [(['!'], ['!']), (['!', '!'], "tag:yaml.org,2002:".toList)]

def TagText.resolve (handles : List (List Char × List Char)) (t : TagText) :
    Except Fault (List Char) :=
  if t.handle = [] then .ok t.suffix
  else
    match (handles ++ standardHandles).lookup t.handle with
    | some target => .ok (target ++ t.suffix)
    | none => .error .badProperty

def readVersionNumber (c : Cursor) : Except Fault (Nat × Cursor) :=
  let (digits, c) := c.takeWhile Text.isDigit
  if digits ≠ [] ∧ digits.length ≤ 9 then .ok (Text.digitsValue 0 digits, c)
  else .error .badDirective

def readVersion (c : Cursor) : Except Fault (Token × Cursor) := do
  let (major, c) ← readVersionNumber (c.skipWhile isSpace)
  if c.rest.head? ≠ some '.' then throw .badDirective
  let (minor, c) ← readVersionNumber (c.skip 1)
  pure (.versionDirective major minor, c)

def readTagTarget (c : Cursor) : Except Fault (Token × Cursor) := do
  let c := c.skipWhile isSpace
  if c.rest.head? ≠ some '!' then throw .badDirective
  let (handle, c) := readHandle c
  if handle.length ≠ 1 ∧ handle.getLast? ≠ some '!' then throw .badDirective
  if !c.rest.head?.any isSpace then throw .badDirective
  let (target, c) ← readTagChars true (c.skipWhile isSpace)
  if target = [] ∨ !isGap c.rest then throw .badDirective
  pure (.tagDirective handle target, c)

def readDirective (c : Cursor) : Except Fault (Token × Cursor) := do
  let (name, c) := c.takeWhile isNameChar
  if name = [] ∨ !isGap c.rest then throw .badDirective
  let (token, c) ←
    if name = "YAML".toList then readVersion c
    else if name = "TAG".toList then readTagTarget c
    else throw .badDirective
  let c := c.skipWhile isSpace
  let c := if c.rest.head? = some '#' then c.skipLine else c
  if !(c.rest = [] || c.rest.head?.any isLineEnd) then throw .badDirective
  pure (token, c.skipLineEnd)

end SshTunnel.Yaml
