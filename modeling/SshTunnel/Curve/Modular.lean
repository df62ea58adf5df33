/-!
# Arithmetic with a modulus

Differences, powers and inverses of natural numbers with regard to a modulus.
-/

namespace SshTunnel.Curve

def subMod (p a b : Nat) : Nat :=
  (a + (p - b % p)) % p

def powMod (p a n : Nat) : Nat :=
  if n = 0 then 1 % p
  else
    let root := powMod p (a * a % p) (n / 2)
    if n % 2 = 1 then root * a % p else root

def inverse (p a : Nat) : Nat :=
  powMod p a (p - 2)

end SshTunnel.Curve
