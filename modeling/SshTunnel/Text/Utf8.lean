/-!
# UTF-8

`next` reads one character off the front of an octet sequence, or tells how many octets no
character can start with. `decode` wants a well-formed sequence and reports where it stops being
one; `decodeLossy` puts U+FFFD in the place of every ill-formed part.
-/

namespace SshTunnel

/-- Octet sequences, as they travel and as they lie in files. -/
abbrev Bytes := List UInt8

namespace Text.Utf8

def encode (s : List Char) : Bytes :=
  s.flatMap String.utf8EncodeChar

def ofString (s : String) : Bytes :=
  encode s.toList

inductive Front where
  /-- A character and the octets after it. -/
  | char (c : Char) (rest : Bytes)
  /-- So many octets that belong to no character, and the octets after them. -/
  | invalid (count : Nat) (rest : Bytes)
  /-- The start of a character that the sequence ends within. -/
  | incomplete
  deriving DecidableEq, Repr

def isTail (b : UInt8) : Bool :=
  0x80 ≤ b && b ≤ 0xBF

/-- The lowest and highest second octet after a first octet of a long character. -/
def secondRange (first : UInt8) : UInt8 × UInt8 :=
  if first = 0xE0 then (0xA0, 0xBF)
  else if first = 0xED then (0x80, 0x9F)
  else if first = 0xF0 then (0x90, 0xBF)
  else if first = 0xF4 then (0x80, 0x8F)
  else (0x80, 0xBF)

def isSecond (first b : UInt8) : Bool :=
  (secondRange first).1 ≤ b && b ≤ (secondRange first).2

def tailBits (b : UInt8) : Nat :=
  b.toNat % 0x40

def next2 (first : UInt8) : Bytes → Front
  | [] => .incomplete
  | b :: r =>
      if isTail b then .char (Char.ofNat (first.toNat % 0x20 * 0x40 + tailBits b)) r
      else .invalid 1 (b :: r)

def next3 (first : UInt8) : Bytes → Front
  | [] => .incomplete
  | b :: r =>
      if isSecond first b then
        match r with
        | [] => .incomplete
        | c :: r =>
            if isTail c then
              .char (Char.ofNat (first.toNat % 0x10 * 0x1000 + tailBits b * 0x40 + tailBits c)) r
            else .invalid 2 (c :: r)
      else .invalid 1 (b :: r)

def next4 (first : UInt8) : Bytes → Front
  | [] => .incomplete
  | b :: r =>
      if isSecond first b then
        match r with
        | [] => .incomplete
        | c :: r =>
            if isTail c then
              match r with
              | [] => .incomplete
              | d :: r =>
                  if isTail d then
                    .char (Char.ofNat (first.toNat % 0x08 * 0x40000 + tailBits b * 0x1000 +
                      tailBits c * 0x40 + tailBits d)) r
                  else .invalid 3 (d :: r)
            else .invalid 2 (c :: r)
      else .invalid 1 (b :: r)

def next (first : UInt8) (rest : Bytes) : Front :=
  if first < 0x80 then .char (Char.ofNat first.toNat) rest
  else if 0xC2 ≤ first && first ≤ 0xDF then next2 first rest
  else if 0xE0 ≤ first && first ≤ 0xEF then next3 first rest
  else if 0xF0 ≤ first && first ≤ 0xF4 then next4 first rest
  else .invalid 1 rest

def Front.rest : Front → Bytes
  | .char _ r => r
  | .invalid _ r => r
  | .incomplete => []

theorem length_next2_rest_le (first : UInt8) (r : Bytes) :
    (next2 first r).rest.length ≤ r.length := by
  unfold next2
  repeat' split
  all_goals simp [Front.rest]

theorem length_next3_rest_le (first : UInt8) (r : Bytes) :
    (next3 first r).rest.length ≤ r.length := by
  unfold next3
  repeat' split
  all_goals (simp [Front.rest]; try omega)

theorem length_next4_rest_le (first : UInt8) (r : Bytes) :
    (next4 first r).rest.length ≤ r.length := by
  unfold next4
  repeat' split
  all_goals (simp [Front.rest]; try omega)

theorem length_next_rest_le (first : UInt8) (r : Bytes) :
    (next first r).rest.length ≤ r.length := by
  unfold next
  repeat' split
  · simp [Front.rest]
  · exact length_next2_rest_le first r
  · exact length_next3_rest_le first r
  · exact length_next4_rest_le first r
  · simp [Front.rest]

/-- Where and how an octet sequence fails to be UTF-8. -/
structure Fault where
  /-- The octets before the fault, all well formed. -/
  validUpTo : Nat
  /-- How many octets are wrong; `none` when the sequence ends within a character. -/
  wrong : Option Nat
  deriving DecidableEq, Repr

def Fault.message (f : Fault) : String :=
  match f.wrong with
  | some n => s!"invalid utf-8 sequence of {n} bytes from index {f.validUpTo}"
  | none => s!"incomplete utf-8 byte sequence from index {f.validUpTo}"

/-- The text of a sequence whose first octet lies at the given index. -/
def decodeFrom (index : Nat) : Bytes → Except Fault (List Char)
  | [] => .ok []
  | b :: r =>
      match _h : next b r with
      | .char c rest => (decodeFrom (index + c.utf8Size) rest).map (c :: ·)
      | .invalid n _ => .error ⟨index, some n⟩
      | .incomplete => .error ⟨index, none⟩
  termination_by s => s.length
  decreasing_by
    exact Nat.lt_succ_of_le (by simpa only [_h, Front.rest] using length_next_rest_le b r)

/-- The text of a well-formed octet sequence. -/
def decode (s : Bytes) : Except Fault (List Char) :=
  decodeFrom 0 s

def decodeString (s : Bytes) : Except Fault String :=
  (decode s).map String.ofList

/-- The text of an octet sequence, U+FFFD standing for every part that is not UTF-8. -/
def decodeLossy : Bytes → List Char
  | [] => []
  | b :: r =>
      match _h : next b r with
      | .char c rest => c :: decodeLossy rest
      | .invalid _ rest => '\ufffd' :: decodeLossy rest
      | .incomplete => ['\ufffd']
  termination_by s => s.length
  decreasing_by
    all_goals
      exact Nat.lt_succ_of_le (by simpa only [_h, Front.rest] using length_next_rest_le b r)

@[simp] theorem encode_nil : encode [] = [] := rfl

theorem encode_cons (c : Char) (s : List Char) :
    encode (c :: s) = String.utf8EncodeChar c ++ encode s := rfl

theorem encode_append (s t : List Char) : encode (s ++ t) = encode s ++ encode t := by
  simp [encode]

end Text.Utf8

end SshTunnel
