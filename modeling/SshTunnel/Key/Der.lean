import SshTunnel.Bytes.BigEndian
import SshTunnel.Key.Source

/-!
# Elements in the distinguished encoding

An element is a tag, a length and so many octets. `Der.read` takes an element off the front of an
octet sequence; lengths are written in the shortest way.
-/

namespace SshTunnel.Key.Der

structure Element where
  tag : UInt8
  contents : Bytes
  rest : Bytes
  deriving DecidableEq, Repr

def readLength : Bytes → Except Fault (Nat × Bytes)
  | [] => .error .badLength
  | b :: s =>
      if b < 0x80 then .ok (b.toNat, s)
      else
        let count := b.toNat - 0x80
        match Bytes.take? count s with
        | some (digits, rest) =>
            let n := Bytes.toNat digits
            if 0 < count ∧ count ≤ 4 ∧ digits.head? ≠ some 0 ∧ 0x80 ≤ n then .ok (n, rest)
            else .error .badLength
        | none => .error .badLength

def read : Bytes → Except Fault Element
  | [] => .error .badLength
  | tag :: s => do
      let (n, s) ← readLength s
      match Bytes.take? n s with
      | some (contents, rest) => pure ⟨tag, contents, rest⟩
      | none => throw .badLength

/-- The contents of the element at the front, which has to have the tag, and what follows it. -/
def expect (tag : UInt8) (s : Bytes) : Except Fault (Bytes × Bytes) := do
  let e ← read s
  if e.tag ≠ tag then throw .badNumber
  pure (e.contents, e.rest)

def expectOptional (tag : UInt8) (s : Bytes) : Except Fault (Option Bytes × Bytes) :=
  if s.head? = some tag then (expect tag s).map fun (contents, rest) => (some contents, rest)
  else .ok (none, s)

def integerTag : UInt8 := 0x02
def bitsTag : UInt8 := 0x03
def octetsTag : UInt8 := 0x04
def nullTag : UInt8 := 0x05
def identifierTag : UInt8 := 0x06
def sequenceTag : UInt8 := 0x30

/-- The natural number at the front, in as few octets as its sign allows. -/
def natural (s : Bytes) : Except Fault (Nat × Bytes) := do
  let (digits, rest) ← expect integerTag s
  match digits with
  | [] => throw .badNumber
  | [b] => if b < 0x80 then pure (b.toNat, rest) else throw .badNumber
  | b :: c :: _ =>
      if b < 0x80 ∧ (b ≠ 0 ∨ 0x80 ≤ c) then pure (Bytes.toNat digits, rest) else throw .badNumber

def naturals : Nat → Bytes → Except Fault (List Nat × Bytes)
  | 0, s => .ok ([], s)
  | count + 1, s => do
      let (n, s) ← natural s
      let (more, s) ← naturals count s
      pure (n :: more, s)

def whole (s : Bytes) : Except Fault Bytes := do
  let (contents, rest) ← expect sequenceTag s
  if rest ≠ [] then throw (.trailing rest.length)
  pure contents

end SshTunnel.Key.Der
