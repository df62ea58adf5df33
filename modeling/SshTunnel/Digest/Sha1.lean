import SshTunnel.Bytes.BigEndian

/-!
# SHA-1

The digest works on blocks of sixty-four octets: `padded` fills the message up to whole blocks,
`compress` mixes one block into the five words of the state, and `sha1` is the state after the last
block.
-/

namespace SshTunnel.Digest

/-- The words from which the digest starts and into which it mixes the blocks. -/
structure State where
  a : UInt32 := 0x67452301
  b : UInt32 := 0xEFCDAB89
  c : UInt32 := 0x98BADCFE
  d : UInt32 := 0x10325476
  e : UInt32 := 0xC3D2E1F0
  deriving DecidableEq, Repr

def blockSize : Nat := 64

/-- The message, a set bit, zeros, and the length of the message in bits: whole blocks. -/
def padded (message : Bytes) : Bytes :=
  let n := message.length
  message ++ 0x80 :: List.replicate ((119 - n % blockSize) % blockSize) 0 ++ Bytes.ofLong (8 * n)

def rotateLeft (w k : UInt32) : UInt32 :=
  w <<< k ||| w >>> (32 - k)

def blockWords : Bytes → List UInt32
  | a :: b :: c :: d :: r => Bytes.word a b c d :: blockWords r
  | _ => []

/-- The words that a block is stretched to. `recent` holds the last sixteen, the oldest first. -/
def stretch : Nat → List UInt32 → List UInt32
  | 0, recent => recent
  | n + 1, recent =>
      match recent with
      | w :: rest =>
          let next := rotateLeft ((rest.getD 12 0) ^^^ (rest.getD 7 0) ^^^ (rest.getD 1 0) ^^^ w) 1
          w :: stretch n (rest ++ [next])
      | [] => []

def roundMix (round : Nat) (b c d : UInt32) : UInt32 × UInt32 :=
  if round < 20 then ((b &&& c) ||| (~~~b &&& d), 0x5A827999)
  else if round < 40 then (b ^^^ c ^^^ d, 0x6ED9EBA1)
  else if round < 60 then ((b &&& c) ||| (b &&& d) ||| (c &&& d), 0x8F1BBCDC)
  else (b ^^^ c ^^^ d, 0xCA62C1D6)

def mixWord (s : State) (round : Nat) (w : UInt32) : State :=
  let (f, k) := roundMix round s.b s.c s.d
  { a := rotateLeft s.a 5 + f + s.e + k + w
    b := s.a
    c := rotateLeft s.b 30
    d := s.c
    e := s.d }

def mixWords (s : State) (round : Nat) : List UInt32 → State
  | [] => s
  | w :: ws => mixWords (mixWord s round w) (round + 1) ws

def compress (s : State) (block : Bytes) : State :=
  let t := mixWords s 0 (stretch 64 (blockWords block))
  { a := s.a + t.a, b := s.b + t.b, c := s.c + t.c, d := s.d + t.d, e := s.e + t.e }

def compressBlocks (s : State) : Nat → Bytes → State
  | 0, _ => s
  | n + 1, octets =>
      compressBlocks (compress s (octets.take blockSize)) n (octets.drop blockSize)

def sha1 (message : Bytes) : Bytes :=
  let octets := padded message
  let s := compressBlocks {} (octets.length / blockSize) octets
  [s.a, s.b, s.c, s.d, s.e].flatMap Bytes.ofWord

theorem length_sha1 (message : Bytes) : (sha1 message).length = 20 := rfl

end SshTunnel.Digest
