import SshTunnel.Curve.Modular
import SshTunnel.Bytes.BigEndian

/-!
# The public half of a key of an elliptic curve

On the curves `y² = x³ - 3x + b` over a prime field, the private half is a factor and the public
half the multiple of the curve's base point with it.
-/

namespace SshTunnel.Curve

/-- A curve: the prime of its field, the order of its base point, that point, and the size of a
coordinate in octets. -/
structure Weierstrass where
  prime : Nat
  order : Nat
  baseX : Nat
  baseY : Nat
  size : Nat
  deriving DecidableEq, Repr

namespace Weierstrass

abbrev Point := Option (Nat × Nat)

def alongSlope (c : Weierstrass) (slope x1 y1 x2 : Nat) : Point :=
  let x := subMod c.prime (slope * slope) (x1 + x2)
  some (x, subMod c.prime (slope * subMod c.prime x1 x) y1)

def add (c : Weierstrass) : Point → Point → Point
  | none, q => q
  | p, none => p
  | some (x1, y1), some (x2, y2) =>
      if x1 = x2 then
        if (y1 + y2) % c.prime = 0 then none
        else
          let rise := subMod c.prime (3 * x1 * x1) 3
          c.alongSlope (rise * inverse c.prime (2 * y1) % c.prime) x1 y1 x2
      else
        let rise := subMod c.prime y2 y1
        c.alongSlope (rise * inverse c.prime (subMod c.prime x2 x1) % c.prime) x1 y1 x2

def multiple (c : Weierstrass) (n : Nat) (p : Point) : Point :=
  if n = 0 then none
  else
    let half := c.multiple (n / 2) (c.add p p)
    if n % 2 = 1 then c.add half p else half

def coordinate (c : Weierstrass) (n : Nat) : Bytes :=
  ((List.range c.size).map fun i => (n >>> (8 * i)).toUInt8).reverse

def encode (c : Weierstrass) (x y : Nat) : Bytes :=
  4 :: c.coordinate x ++ c.coordinate y

/-- The octets of a point with the first coordinate and the parity of the second. -/
def encodeShort (c : Weierstrass) (x y : Nat) : Bytes :=
  (if y % 2 = 0 then 2 else 3) :: c.coordinate x

def public? (c : Weierstrass) (factor : Nat) : Option (Nat × Nat) :=
  if factor < c.order then c.multiple factor (some (c.baseX, c.baseY)) else none

end Weierstrass

end SshTunnel.Curve
