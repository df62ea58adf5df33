import SshTunnel.Text.Numeral
import SshTunnel.Text.Utf8

/-!
# Addresses of the Internet Protocol

`IpAddress.parse?` reads an address in the strict spelling: four decimal numbers without needless
zeros, or eight groups of hexadecimal digits of which `::` may stand for some, the last two perhaps
written as four decimal numbers. Brackets and zones are no part of an address.
-/

namespace SshTunnel

inductive IpAddress where
  | v4 (octets : Bytes)
  | v6 (octets : Bytes)
  deriving DecidableEq, Repr

namespace IpAddress

def hexValue? (c : Char) : Option Nat :=
  if Text.isDigit c then some (c.toNat - '0'.toNat)
  else if 'a' ≤ c ∧ c ≤ 'f' then some (c.toNat - 'a'.toNat + 10)
  else if 'A' ≤ c ∧ c ≤ 'F' then some (c.toNat - 'A'.toNat + 10)
  else none

def skip (c : Char) : List Char → Option (List Char)
  | d :: s => if d = c then some s else none
  | [] => none

/-- A decimal number below 256 without needless zeros. -/
def readOctet (s : List Char) : Option (UInt8 × List Char) :=
  let digits := s.takeWhile Text.isDigit
  let n := Text.digitsValue 0 digits
  if digits ≠ [] ∧ digits.length ≤ 3 ∧ (digits.head? ≠ some '0' ∨ digits.length = 1) ∧ n < 256 then
    some (n.toUInt8, s.drop digits.length)
  else none

def readV4 (s : List Char) : Option (Bytes × List Char) := do
  let (a, s) ← readOctet s
  let (b, s) ← readOctet (← skip '.' s)
  let (c, s) ← readOctet (← skip '.' s)
  let (d, s) ← readOctet (← skip '.' s)
  pure ([a, b, c, d], s)

def readGroup (s : List Char) : Option (Bytes × List Char) :=
  let digits := s.takeWhile fun c => (hexValue? c).isSome
  let n := digits.foldl (fun n c => 16 * n + (hexValue? c).getD 0) 0
  if digits ≠ [] ∧ digits.length ≤ 4 then
    some ([(n / 256).toUInt8, (n % 256).toUInt8], s.drop digits.length)
  else none

/-- Reads at most so many groups with colons between them; four decimal numbers at the end count
as two groups and leave room for no more. Also tells whether there were such numbers. -/
def readGroups : (room : Nat) → (colon : Bool) → List Char → Bytes × Bool × List Char
  | 0, _, s => ([], false, s)
  | room + 1, colon, s =>
      let after := if colon then skip ':' s else some s
      match if 0 < room then after.bind readV4 else none with
      | some (octets, rest) => (octets, true, rest)
      | none =>
          match after.bind readGroup with
          | some (octets, rest) =>
              let (more, decimal, rest) := readGroups room true rest
              (octets ++ more, decimal, rest)
          | none => ([], false, s)

/-- Sixteen octets in groups, with zeros for a double colon. -/
def readV6 (s : List Char) : Option (Bytes × List Char) :=
  let (front, decimal, s) := readGroups 8 false s
  if front.length = 16 then some (front, s)
  else if decimal then none
  else do
    let s ← skip ':' (← skip ':' s)
    let (back, _, s) := readGroups (7 - front.length / 2) false s
    pure (front ++ List.replicate (16 - front.length - back.length) 0 ++ back, s)

def parse? (s : List Char) : Option IpAddress :=
  match readV4 s with
  | some (octets, []) => some (.v4 octets)
  | _ =>
      match readV6 s with
      | some (octets, []) => some (.v6 octets)
      | _ => none

end IpAddress

end SshTunnel
