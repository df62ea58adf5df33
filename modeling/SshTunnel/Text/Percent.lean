import SshTunnel.Text.Utf8

/-!
# Percent-encoding

An octet can be written as a percent sign and two hexadecimal digits. `unescape` takes such groups
back and leaves every other use of the percent sign as it stands; `decode` then reads the octets as
UTF-8. `encode` writes a text with every octet but ASCII letters and digits as a group.
-/

namespace SshTunnel.Text.Percent

def hexValue? (b : UInt8) : Option UInt8 :=
  if 0x30 ≤ b && b ≤ 0x39 then some (b - 0x30)
  else if 0x41 ≤ b && b ≤ 0x46 then some (b - 0x41 + 10)
  else if 0x61 ≤ b && b ≤ 0x66 then some (b - 0x61 + 10)
  else none

/-- The upper-case hexadecimal digit of a value below sixteen. -/
def hexDigit (v : UInt8) : UInt8 :=
  if v < 10 then 0x30 + v else 0x41 + (v - 10)

/-- The octets that a sequence with percent groups stands for. -/
def unescape : Bytes → Bytes
  | [] => []
  | 0x25 :: a :: b :: r =>
      match hexValue? a, hexValue? b with
      | some x, some y => (x * 16 + y) :: unescape r
      | some _, none => 0x25 :: a :: unescape (b :: r)
      | none, _ => 0x25 :: unescape (a :: b :: r)
  | c :: r => c :: unescape r

def decode (s : List Char) : Except Utf8.Fault (List Char) :=
  Utf8.decode (unescape (Utf8.encode s))

def isPlain (b : UInt8) : Bool :=
  (0x30 ≤ b && b ≤ 0x39) || (0x41 ≤ b && b ≤ 0x5A) || (0x61 ≤ b && b ≤ 0x7A)

def escapeByte (b : UInt8) : Bytes :=
  if isPlain b then [b] else [0x25, hexDigit (b / 16), hexDigit (b % 16)]

/-- A text with every octet but ASCII letters and digits written as a percent group. -/
def encode (s : List Char) : List Char :=
  ((Utf8.encode s).flatMap escapeByte).map fun b => Char.ofNat b.toNat

@[simp] theorem unescape_nil : unescape [] = [] := by
  simp [unescape]

theorem unescape_cons_of_ne {c : UInt8} (r : Bytes) (h : c ≠ 0x25) :
    unescape (c :: r) = c :: unescape r := by
  rw [unescape]
  simp_all

end SshTunnel.Text.Percent
