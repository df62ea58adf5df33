import SshTunnel.Curve.Modular
import SshTunnel.Digest.Sha512

/-!
# The public half of an Ed25519 key

The private half is a seed of thirty-two octets. Its digest gives the factor that the base point of
the curve is multiplied with; the product, as octets, is the public half.
-/

namespace SshTunnel.Curve.Edwards

def prime : Nat :=
  57896044618658097711785492504343953926634992332820282019728792003956564819949

def coefficient : Nat :=
  37095705934669439343138083508754565189542113879843219016388785533085940283555

/-- A point as fractions with a common denominator: `x / z`, `y / z`, and `t / z` is the product of
both. -/
structure Point where
  x : Nat
  y : Nat
  z : Nat
  t : Nat
  deriving DecidableEq, Repr

/-- The number with only the highest bit of thirty-two octets. -/
def signBit : Nat :=
  57896044618658097711785492504343953926634992332820282019728792003956564819968

/-- The number with only the bit below the highest of thirty-two octets. -/
def topBit : Nat :=
  28948022309329048855892746252171976963317496166410141009864396001978282409984

namespace Point

def ofAffine (x y : Nat) : Point :=
  ⟨x, y, 1, x * y % prime⟩

def zero : Point :=
  ofAffine 0 1

def base : Point :=
  ofAffine 15112221349535400772501151409588531511454012693041857206046113283949847762202
    46316835694926478169428394003475163141307993866256225615783033603165251855960

def add (p q : Point) : Point :=
  let a := subMod prime p.y p.x * subMod prime q.y q.x
  let b := (p.y + p.x) * (q.y + q.x)
  let c := 2 * coefficient * p.t * q.t
  let d := 2 * p.z * q.z
  let e := subMod prime b a
  let f := subMod prime d c
  let g := (d + c) % prime
  let h := (b + a) % prime
  ⟨e * f % prime, g * h % prime, f * g % prime, e * h % prime⟩

def multiple (n : Nat) (p : Point) : Point :=
  if n = 0 then zero
  else
    let half := multiple (n / 2) (p.add p)
    if n % 2 = 1 then half.add p else half

/-- The octets of a point: the second coordinate, the lowest octet first, with the parity of the
first coordinate in its highest bit. -/
def encode (p : Point) : Bytes :=
  let scale := inverse prime p.z
  let x := p.x * scale % prime
  let y := p.y * scale % prime
  let marked := y + x % 2 * signBit
  (List.range 32).map fun i => (marked >>> (8 * i)).toUInt8

end Point

/-- The factor that the first half of a digest gives: a multiple of eight with a fixed highest
bit. -/
def factor (half : Bytes) : Nat :=
  let n := Bytes.toNat half.reverse
  let low := n % topBit
  low - low % 8 + topBit

def publicOfSeed (seed : Bytes) : Bytes :=
  (Point.base.multiple (factor ((Digest.Sha512.digest seed).take 32))).encode

end SshTunnel.Curve.Edwards
