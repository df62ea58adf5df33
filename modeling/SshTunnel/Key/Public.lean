import SshTunnel.Key.Source
import SshTunnel.Text.Split

/-!
# Public keys

A public key is an algorithm and the fields that the algorithm wants. `PublicKey.read` takes the
type and the Base64 data of a key apart, `PublicKey.ofText` does so for a line with a comment, and
`PublicKey.text` writes type and data again. Two keys are the same when algorithm and fields are.
-/

namespace SshTunnel

structure PublicKey where
  algorithm : String
  fields : List Bytes
  deriving DecidableEq, Repr, Inhabited

namespace PublicKey

open Key

inductive FieldKind where
  /-- So many octets. -/
  | octets (count : Nat)
  /-- A number without needless zeros before it. -/
  | number
  /-- The name of a curve. -/
  | curve (name : String)
  /-- A point of a curve with coordinates of so many octets. -/
  | point (coordinate : Nat)
  /-- Any octets. -/
  | blob
  deriving DecidableEq, Repr

def curveFields (name : String) (coordinate : Nat) : List FieldKind :=
  [.curve name, .point coordinate]

/-- Whether a name is one that anyone may define: a name and a domain around one at sign. -/
def isPrivateName (label : String) : Bool :=
  label.toList.count '@' = 1 && label.toList.head? ≠ some '@' && label.toList.getLast? ≠ some '@'

/-- The algorithm of a label, under its usual name, and the fields of its keys. -/
def shape? (label : String) : Option (String × List FieldKind) :=
  if label = "ssh-ed25519" then some (label, [.octets 32])
  else if label ∈ ["ssh-rsa", "rsa-sha2-256", "rsa-sha2-512"] then
    some ("ssh-rsa", [.number, .number])
  else if label = "ssh-dss" then some (label, [.number, .number, .number, .number])
  else if label = "ecdsa-sha2-nistp256" then some (label, curveFields "nistp256" 32)
  else if label = "ecdsa-sha2-nistp384" then some (label, curveFields "nistp384" 48)
  else if label = "ecdsa-sha2-nistp521" then some (label, curveFields "nistp521" 66)
  else if label = "sk-ssh-ed25519@openssh.com" then some (label, [.octets 32, .blob])
  else if label = "sk-ecdsa-sha2-nistp256@openssh.com" then
    some (label, curveFields "nistp256" 32 ++ [.blob])
  else if isPrivateName label then some (label, [.blob])
  else none

/-- Whether octets are a point with coordinates of so many octets, as a pair or compressed. -/
def isPoint (coordinate : Nat) : Bytes → Bool
  | [] => false
  | tag :: s =>
      (tag = 4 && s.length = 2 * coordinate) ||
        ((tag = 2 || tag = 3) && s.length = coordinate)

/-- Whether octets are a number that is not negative-looking by a needless zero. -/
def isNumber : Bytes → Bool
  | [0] => false
  | 0 :: b :: _ => 0x80 ≤ b
  | _ => true

def FieldKind.check : FieldKind → Bytes → Except Fault Unit
  | octets n, s =>
      if s.length < n then .error .badLength
      else if n < s.length then .error (.trailing (s.length - n))
      else .ok ()
  | number, s => if isNumber s then .ok () else .error .badNumber
  | curve name, s => if s = Text.Utf8.ofString name then .ok () else .error .unknownAlgorithm
  | point n, s => if isPoint n s then .ok () else .error .badLength
  | blob, _ => .ok ()

def readFields (src : Source) : List FieldKind → Except Fault (List Bytes × Source)
  | [] => .ok ([], src)
  | kind :: kinds => do
      let (s, src) ← src.readField
      kind.check s
      let (rest, src) ← readFields src kinds
      pure (s :: rest, src)

def maxLabelLength : Nat := 48

def readShape (src : Source) : Except Fault ((String × List FieldKind) × Source) := do
  let (s, src) ← src.readField
  if maxLabelLength < s.length then throw .badLength
  match Text.Utf8.decodeString s with
  | .error _ => throw .badText
  | .ok label =>
      match shape? label with
      | none => throw (.badLabel label)
      | some shape => pure (shape, src)

def ofSource (src : Source) : Except Fault (PublicKey × Source) := do
  let ((algorithm, kinds), src) ← readShape src
  let (fields, src) ← readFields src kinds
  pure (⟨algorithm, fields⟩, src)

def isKeyChar (c : Char) : Bool :=
  c.isAlphanum || c ∈ ['+', '-', '/', '=', '@', '.']

def read (kind data : List Char) : Except Fault PublicKey := do
  if !(kind.all isKeyChar && data.all isKeyChar) then throw .badCharacter
  if kind = [] ∨ data = [] then throw .badLength
  let src ← Source.ofSymbols (Text.Utf8.encode data)
  let (key, src) ← ofSource src
  if key.algorithm.toList ≠ kind then throw .unknownAlgorithm
  src.finish
  pure key

/-- The key of a line: type, data and possibly a comment, with one space between them. -/
def ofText (line : String) : Except Fault PublicKey :=
  let (kind, rest) := Text.splitOptional ' ' (Text.trimEnd line.toList)
  let (data, _) := Text.splitOptional ' ' (rest.getD [])
  read kind data

def blob (key : PublicKey) : Bytes :=
  writeField (Text.Utf8.ofString key.algorithm) ++ key.fields.flatMap writeField

def text (key : PublicKey) : String :=
  let data := (Base64.encode key.blob).map fun b => Char.ofNat b.toNat
  key.algorithm ++ " " ++ String.ofList data

end PublicKey

end SshTunnel
