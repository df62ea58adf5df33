import SshTunnel.Text.Utf8

/-!
# Base64

Three octets are written as four symbols of six bits each; padding signs fill up the last four.
`encode` writes octets so. `decode` takes exactly what `encode` can write, and otherwise tells where
the text goes wrong.
-/

namespace SshTunnel.Base64

def pad : UInt8 := 0x3D

def sextet? (b : UInt8) : Option UInt8 :=
  if 0x41 ≤ b && b ≤ 0x5A then some (b - 0x41)
  else if 0x61 ≤ b && b ≤ 0x7A then some (b - 0x61 + 26)
  else if 0x30 ≤ b && b ≤ 0x39 then some (b - 0x30 + 52)
  else if b = 0x2B then some 62
  else if b = 0x2F then some 63
  else none

def symbol (v : UInt8) : UInt8 :=
  if v < 26 then 0x41 + v
  else if v < 52 then 0x61 + (v - 26)
  else if v < 62 then 0x30 + (v - 52)
  else if v = 62 then 0x2B
  else 0x2F

def encode : Bytes → Bytes
  | [] => []
  | [a] => [symbol (a >>> 2), symbol ((a &&& 0x03) <<< 4), pad, pad]
  | [a, b] =>
      [symbol (a >>> 2), symbol ((a &&& 0x03) <<< 4 ||| b >>> 4), symbol ((b &&& 0x0F) <<< 2), pad]
  | a :: b :: c :: r =>
      symbol (a >>> 2) :: symbol ((a &&& 0x03) <<< 4 ||| b >>> 4) ::
        symbol ((b &&& 0x0F) <<< 2 ||| c >>> 6) :: symbol (c &&& 0x3F) :: encode r

/-- The octets of symbol values, without those bits of the last symbol that fill no octet. -/
def join : List UInt8 → Bytes
  | w :: x :: y :: z :: r =>
      (w <<< 2 ||| x >>> 4) :: (x <<< 4 ||| y >>> 2) :: (y <<< 6 ||| z) :: join r
  | [w, x, y] => [w <<< 2 ||| x >>> 4, x <<< 4 ||| y >>> 2]
  | [w, x] => [w <<< 2 ||| x >>> 4]
  | _ => []

/-- Whether the bits of the last symbol that fill no octet are zero. -/
def isTidy : List UInt8 → Bool
  | _ :: _ :: _ :: _ :: r => isTidy r
  | [_, _, y] => y &&& 0x03 == 0
  | [_, x] => x &&& 0x0F == 0
  | _ => true

/-- Why a text is not what `encode` writes. -/
inductive Fault where
  /-- An octet that is no symbol, or a padding sign where there can be none. -/
  | badSymbol (octet : UInt8) (offset : Nat)
  /-- A lone symbol at the end. -/
  | badLength (length : Nat)
  | badPadding
  /-- A last symbol with bits that fill no octet. -/
  | badLastSymbol (octet : UInt8) (offset : Nat)
  deriving DecidableEq, Repr

def Fault.message : Fault → String
  | badSymbol octet offset => s!"Invalid symbol {octet.toNat}, offset {offset}."
  | badLength length => s!"Invalid input length: {length}"
  | badPadding => "Invalid padding"
  | badLastSymbol octet offset => s!"Invalid last symbol {octet.toNat}, offset {offset}."

def sextets (offset : Nat) : Bytes → Except Fault (List UInt8)
  | [] => .ok []
  | b :: r =>
      match sextet? b with
      | none => .error (.badSymbol b offset)
      | some v => (sextets (offset + 1) r).map (v :: ·)

/-- The octets of the last four symbols, or fewer, of a text. The symbols end at the first padding
sign; only padding signs may follow it, and two symbols have to precede it. -/
def decodeLast (offset : Nat) (s : Bytes) : Except Fault Bytes := do
  let symbols := s.takeWhile (· ≠ pad)
  let rest := s.drop symbols.length
  let values ← sextets offset symbols
  if rest ≠ [] ∧ symbols.length < 2 then throw (.badSymbol pad (offset + symbols.length))
  if rest.any (· ≠ pad) then throw (.badSymbol pad (offset + symbols.length))
  if symbols.length = 1 then throw (.badLength (offset + 1))
  if s.length % 4 ≠ 0 then throw .badPadding
  if !isTidy values then
    throw (.badLastSymbol (symbols.getLast?.getD pad) (offset + symbols.length - 1))
  pure (join values)

def decodeFrom (offset : Nat) : Bytes → Except Fault Bytes
  | a :: b :: c :: d :: e :: r => do
      let values ← sextets offset [a, b, c, d]
      let octets ← decodeFrom (offset + 4) (e :: r)
      pure (join values ++ octets)
  | s => decodeLast offset s

/-- The octets that a text stands for. A lone last octet that is no symbol is noticed first. -/
def decode (s : Bytes) : Except Fault Bytes :=
  match s.getLast? with
  | some b =>
      if s.length % 4 = 1 ∧ b ≠ pad ∧ sextet? b = none then .error (.badSymbol b (s.length - 1))
      else decodeFrom 0 s
  | none => .ok []

theorem encode_nil : encode [] = [] := rfl

theorem decode_nil : decode [] = .ok [] := rfl

end SshTunnel.Base64
