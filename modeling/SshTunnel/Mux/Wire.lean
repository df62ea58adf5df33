import SshTunnel.Bytes.BigEndian

/-!
# Fields of messages

A message is a sequence of fields: octets, words of four octets with the highest first, and octet
strings after their length in a word. `Field.encode` writes a field, and `FieldKind.read?` reads one
of a known kind and tells what follows it; there is no such field when the message ends too soon.
-/

namespace SshTunnel.Mux

inductive Field where
  | byte (b : UInt8)
  | word (w : UInt32)
  | string (s : Bytes)
  deriving DecidableEq, Repr

inductive FieldKind where
  | byte | word | string
  deriving DecidableEq, Repr

def Field.kind : Field → FieldKind
  | byte _ => .byte
  | word _ => .word
  | string _ => .string

def Field.encode : Field → Bytes
  | byte b => [b]
  | word w => Bytes.ofWord w
  | string s => Bytes.ofWord s.length.toUInt32 ++ s

def encodeFields (fields : List Field) : Bytes :=
  fields.flatMap Field.encode

def readByte? : Bytes → Option (UInt8 × Bytes)
  | [] => none
  | b :: s => some (b, s)

def readWord? : Bytes → Option (UInt32 × Bytes)
  | a :: b :: c :: d :: s => some (Bytes.word a b c d, s)
  | _ => none

def readString? (s : Bytes) : Option (Bytes × Bytes) := do
  let (n, s) ← readWord? s
  Bytes.take? n.toNat s

/-- Whether the octet at the front is not zero, and what follows it. -/
def readFlag? (s : Bytes) : Option (Bool × Bytes) := do
  let (b, s) ← readByte? s
  pure (b ≠ 0, s)

def readText? (s : Bytes) : Option (String × Bytes) := do
  let (text, s) ← readString? s
  pure (String.ofList (Text.Utf8.decodeLossy text), s)

def FieldKind.read? : FieldKind → Bytes → Option (Field × Bytes)
  | byte, s => (readByte? s).map fun (b, s) => (.byte b, s)
  | word, s => (readWord? s).map fun (w, s) => (.word w, s)
  | string, s => (readString? s).map fun (t, s) => (.string t, s)

def readFields? : List FieldKind → Bytes → Option (List Field × Bytes)
  | [], s => some ([], s)
  | kind :: kinds, s => do
      let (field, s) ← kind.read? s
      let (fields, s) ← readFields? kinds s
      pure (field :: fields, s)

@[simp] theorem encodeFields_nil : encodeFields [] = [] := rfl

@[simp] theorem encodeFields_cons (f : Field) (fields : List Field) :
    encodeFields (f :: fields) = f.encode ++ encodeFields fields := rfl

end SshTunnel.Mux
