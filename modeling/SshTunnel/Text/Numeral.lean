/-!
# Decimal numerals

`natural?` reads a run of ASCII digits. `word16?` reads a sixteen-bit number, which may have one
plus sign before its digits and any number of leading zeros.
-/

namespace SshTunnel.Text

def isDigit (c : Char) : Bool :=
  '0' ≤ c && c ≤ '9'

def digitValue (c : Char) : Nat :=
  c.toNat - '0'.toNat

def digitsValue (start : Nat) (s : List Char) : Nat :=
  s.foldl (fun n c => 10 * n + digitValue c) start

/-- The number written by a non-empty run of digits. -/
def natural? (s : List Char) : Option Nat :=
  if s ≠ [] ∧ s.all isDigit then some (digitsValue 0 s) else none

def dropPlus : List Char → List Char
  | '+' :: s => s
  | s => s

def word16? (s : List Char) : Option UInt16 :=
  match natural? (dropPlus s) with
  | some n => if n < 65536 then some n.toUInt16 else none
  | none => none

def decimal (n : Nat) : String :=
  toString n

theorem natural?_nil : natural? [] = none := rfl

theorem digitsValue_append (start : Nat) (s t : List Char) :
    digitsValue start (s ++ t) = digitsValue (digitsValue start s) t := by
  simp [digitsValue]

end SshTunnel.Text
