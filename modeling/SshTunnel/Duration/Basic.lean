/-!
# Durations

A duration is a whole number of nanoseconds. `render` writes it in the largest unit of which it
holds at least one, with as many decimals as it needs.
-/

namespace SshTunnel

structure Duration where
  nanoseconds : Nat
  deriving DecidableEq, Repr, Inhabited

namespace Duration

def perSecond : Nat := 1000000000

def ofParts (seconds nanoseconds : Nat) : Duration :=
  ⟨seconds * perSecond + nanoseconds⟩

def ofSeconds (n : Nat) : Duration :=
  ofParts n 0

def ofMilliseconds (n : Nat) : Duration :=
  ⟨n * 1000000⟩

def seconds (d : Duration) : Nat :=
  d.nanoseconds / perSecond

def subsecond (d : Duration) : Nat :=
  d.nanoseconds % perSecond

def milliseconds (d : Duration) : Nat :=
  d.nanoseconds / 1000000

def isZero (d : Duration) : Bool :=
  d.nanoseconds == 0

/-- The decimals of `n / 10 ^ width` after the mark, without trailing zeros. -/
def decimals (width n : Nat) : List Char :=
  let digits := Nat.toDigits 10 n
  let padded := List.replicate (width - digits.length) '0' ++ digits
  (padded.reverse.dropWhile (· = '0')).reverse

def renderUnit (width : Nat) (name : String) (n : Nat) : String :=
  let fraction := decimals width (n % Nat.pow 10 width)
  let mark := if fraction = [] then "" else "."
  toString (n / Nat.pow 10 width) ++ mark ++ String.ofList fraction ++ name

def render (d : Duration) : String :=
  let n := d.nanoseconds
  if perSecond ≤ n then renderUnit 9 "s" n
  else if 1000000 ≤ n then renderUnit 6 "ms" n
  else if 1000 ≤ n then renderUnit 3 "µs" n
  else renderUnit 0 "ns" n

theorem seconds_ofParts {s n : Nat} (h : n < perSecond) : (ofParts s n).seconds = s := by
  have hp : 0 < perSecond := by decide
  rw [seconds, ofParts, Nat.mul_comm, Nat.mul_add_div hp, Nat.div_eq_of_lt h, Nat.add_zero]

theorem subsecond_ofParts {s n : Nat} (h : n < perSecond) : (ofParts s n).subsecond = n := by
  rw [subsecond, ofParts, Nat.mul_comm, Nat.mul_add_mod, Nat.mod_eq_of_lt h]

end Duration

end SshTunnel
