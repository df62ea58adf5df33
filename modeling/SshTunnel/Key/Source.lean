import SshTunnel.Bytes.Base64
import SshTunnel.Bytes.BigEndian

/-!
# Reading key material

A `Source` holds octets that are still to be read. Base64 symbols are turned into octets four at a
time and only when they are needed, so that a wrong symbol shows when it is reached. Fields are
octet strings after their length in four octets.
-/

namespace SshTunnel.Key

/-- Why a text or an octet sequence is no key. -/
inductive Fault where
  | badCharacter
  | badSymbols
  | outOfSymbols
  | badLength
  | lengthTooLarge
  | badNumber
  | badLabel (label : String)
  | badText
  | unknownAlgorithm
  | trailing (count : Nat)
  | mismatch
  | encrypted
  | noKey
  deriving DecidableEq, Repr

def Fault.message : Fault → String
  | badCharacter | badText => "character encoding invalid"
  | badSymbols => "Base64 encoding error: invalid Base64 encoding"
  | outOfSymbols => "Base64 encoding error: invalid Base64 length"
  | badLength => "length invalid"
  | lengthTooLarge => "internal overflow error"
  | badNumber => "format encoding error"
  | badLabel label => s!"invalid label: '{label}'"
  | unknownAlgorithm => "unknown algorithm"
  | trailing count => s!"unexpected trailing data at end of message ({count} bytes)"
  | mismatch => "cryptographic error"
  | encrypted => "The key is encrypted"
  | noKey => "Could not read key"

/-- Octets to be read, the first of them already turned from symbols. -/
structure Source where
  octets : Bytes
  symbols : Bytes := []
  /-- How many octets are left in all. -/
  remaining : Nat
  /-- What is wrong when more is asked for than is left. -/
  exhausted : Fault := .badLength
  deriving DecidableEq, Repr

namespace Source

def ofOctets (s : Bytes) : Source where
  octets := s
  remaining := s.length

/-- The octets of four symbols; only the last symbols of a text may be padded. -/
def decodeBlock (block : Bytes) (last : Bool) : Except Fault Bytes :=
  if block.length = 4 && (last || !block.contains Base64.pad) then
    (Base64.decode block).mapError fun _ => .badSymbols
  else .error .badSymbols

/-- A source of the octets that a Base64 text stands for. The last symbols are looked at once. -/
def ofSymbols (s : Bytes) : Except Fault Source := do
  if s = [] then throw .outOfSymbols
  let lastLength := if s.length % 4 = 0 then 4 else s.length % 4
  let before := s.length - lastLength
  let last ← decodeBlock (s.drop before) true
  pure { octets := [], symbols := s, remaining := before / 4 * 3 + last.length,
         exhausted := .outOfSymbols }

/-- Turns symbols into octets until `n` octets are there. `ready` holds those that are. -/
def fill (n : Nat) (exhausted : Fault) (ready : Bytes) (symbols : Bytes) :
    Except Fault (Bytes × Bytes) :=
  if n ≤ ready.length then .ok (ready, symbols)
  else
    match symbols with
    | [] => .error exhausted
    | s :: rest => do
        let after := rest.drop 3
        let block ← decodeBlock (s :: rest.take 3) (after = [])
        fill n exhausted (ready ++ block) after
  termination_by symbols.length
  decreasing_by
    simp only [List.length_drop, List.length_cons]
    omega

def read (src : Source) (n : Nat) : Except Fault (Bytes × Source) := do
  if src.octets = [] ∧ src.symbols = [] then throw src.exhausted
  let (ready, symbols) ← fill n src.exhausted src.octets src.symbols
  pure (ready.take n,
    { src with octets := ready.drop n, symbols, remaining := src.remaining - n })

def readWord (src : Source) : Except Fault (Nat × Source) := do
  let (s, src) ← src.read 4
  pure (Bytes.toNat s, src)

def maxFieldLength : Nat := 0xFFFFF

def readField (src : Source) : Except Fault (Bytes × Source) := do
  let (n, src) ← src.readWord
  if maxFieldLength < n then throw .lengthTooLarge
  src.read n

def isFinished (src : Source) : Bool :=
  src.octets = [] ∧ src.symbols = []

def finish (src : Source) : Except Fault Unit :=
  if src.isFinished then .ok () else .error (.trailing src.remaining)

end Source

def writeField (s : Bytes) : Bytes :=
  Bytes.ofWord s.length.toUInt32 ++ s

theorem length_writeField (s : Bytes) : (writeField s).length = 4 + s.length := by
  simp [writeField]

end SshTunnel.Key
