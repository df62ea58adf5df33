import SshTunnel.Duration.Basic
import SshTunnel.Text.Blank
import SshTunnel.Text.Numeral

/-!
# Durations in words

`parse?` reads durations such as `1h 30m` or `1.5s`: a sum of items, each a number, possibly with
decimals, and a unit. Blank characters may stand anywhere, also between digits. A lone `0` needs no
unit. Numbers that do not fit sixty-four bits are refused, and so are decimals that name no whole
nanosecond (no whole second, for hours and longer units).
-/

namespace SshTunnel.Duration

inductive TimeUnit where
  | nanosecond | microsecond | millisecond | second | minute
  | hour | day | week | month | year
  deriving DecidableEq, Repr

def TimeUnit.ofName? (name : String) : Option TimeUnit :=
  if name ∈ ["nanos", "nsec", "ns"] then some .nanosecond
  else if name ∈ ["usec", "us", "µs"] then some .microsecond
  else if name ∈ ["millis", "msec", "ms"] then some .millisecond
  else if name ∈ ["seconds", "second", "secs", "sec", "s"] then some .second
  else if name ∈ ["minutes", "minute", "min", "mins", "m"] then some .minute
  else if name ∈ ["hours", "hour", "hr", "hrs", "h"] then some .hour
  else if name ∈ ["days", "day", "d"] then some .day
  else if name ∈ ["weeks", "week", "wk", "wks", "w"] then some .week
  else if name ∈ ["months", "month", "M"] then some .month
  else if name ∈ ["years", "year", "yr", "yrs", "y"] then some .year
  else none

/-- What numbers of a unit are counted in. -/
inductive Grain where
  | nanoseconds
  | seconds
  deriving DecidableEq, Repr

def TimeUnit.wholeSize : TimeUnit → Grain × Nat
  | .nanosecond => (.nanoseconds, 1)
  | .microsecond => (.nanoseconds, 1000)
  | .millisecond => (.nanoseconds, 1000000)
  | .second => (.seconds, 1)
  | .minute => (.seconds, 60)
  | .hour => (.seconds, 3600)
  | .day => (.seconds, 86400)
  | .week => (.seconds, 604800)
  | .month => (.seconds, 2630016)
  | .year => (.seconds, 31557600)

def TimeUnit.partSize? : TimeUnit → Option (Grain × Nat)
  | .nanosecond => none
  | .second => some (.nanoseconds, 1000000000)
  | .minute => some (.nanoseconds, 60000000000)
  | u => some u.wholeSize

def fits64 (n : Nat) : Option Nat :=
  if n < 18446744073709551616 then some n else none

structure Decimals where
  numerator : Nat
  denominator : Nat
  deriving DecidableEq, Repr

/-- Adds a count of a grain to a sum whose seconds have to fit sixty-four bits. -/
def addGrain (sum : Duration) : Grain × Nat → Option Duration
  | (.seconds, n) => do
      let s ← fits64 (sum.seconds + n)
      some (ofParts s sum.subsecond)
  | (.nanoseconds, n) => do
      let total ← fits64 (sum.subsecond + n)
      let s ← fits64 (sum.seconds + total / perSecond)
      some (ofParts s (total % perSecond))

def addItem (sum : Duration) (whole : Nat) (part : Option Decimals) (name : List Char) :
    Option Duration := do
  let unit ← TimeUnit.ofName? (String.ofList name)
  let (grain, size) := unit.wholeSize
  let sum ← addGrain sum (grain, ← fits64 (whole * size))
  match part with
  | none => some sum
  | some d =>
      let (grain, size) ← unit.partSize?
      let scaled ← fits64 (d.numerator * size)
      if scaled % d.denominator = 0 then addGrain sum (grain, scaled / d.denominator) else none

def isUnitLetter (c : Char) : Bool :=
  c.isAlpha || c = 'µ'

/-- The whole part of a number: its value and what follows its digits and blanks. -/
def readWhole (n : Nat) : List Char → Option (Nat × List Char)
  | [] => some (n, [])
  | c :: s =>
      if Text.isDigit c then do readWhole (← fits64 (10 * n + Text.digitValue c)) s
      else if Text.isBlank c then readWhole n s
      else some (n, c :: s)

/-- The decimals of a number and what follows them. At least one digit is wanted. -/
def readDecimals (d : Decimals) : List Char → Option (Decimals × List Char)
  | [] => if d.denominator = 1 then none else some (d, [])
  | c :: s =>
      if Text.isDigit c then do
        let den ← fits64 (10 * d.denominator)
        let num ← fits64 (10 * d.numerator + Text.digitValue c)
        readDecimals ⟨num, den⟩ s
      else if Text.isBlank c then readDecimals d s
      else if d.denominator = 1 then none
      else some (d, c :: s)

def readItem (sum : Duration) (s : List Char) : Option (Duration × List Char) := do
  let (whole, s) ← readWhole 0 s
  let (part, s) ←
    match s with
    | '.' :: s => do
        let (d, s) ← readDecimals ⟨0, 1⟩ s
        pure (some d, s)
    | s => pure (none, s)
  let name := s.takeWhile isUnitLetter
  let rest := s.dropWhile isUnitLetter
  let sum ← addItem sum whole part name
  match rest with
  | [] => some (sum, [])
  | c :: _ => if Text.isBlank c || Text.isDigit c then some (sum, Text.trimStart rest) else none

/-- The sum of the items of a text that starts with a digit. Every item takes a character, so that
the length of the text bounds their number. -/
def readItems (sum : Duration) : Nat → List Char → Option Duration
  | _, [] => some sum
  | 0, _ => none
  | fuel + 1, c :: s =>
      if Text.isDigit c then do
        let (sum, rest) ← readItem sum (c :: s)
        readItems sum fuel rest
      else none

def parse? (s : List Char) : Option Duration :=
  if s = ['0'] then some ⟨0⟩
  else
    match Text.trimStart s with
    | [] => none
    | t => readItems ⟨0⟩ t.length t

end SshTunnel.Duration
