import SshTunnel.Bytes.BigEndian
import SshTunnel.Mux.Fault

/-!
# Frames

A connection carries frames: octet strings after their length in four octets. A `Deframer` takes
frames off the octets that have arrived so far, however these came in. `Deframer.atEnd` judges the
end of the connection.
-/

namespace SshTunnel.Mux

def maxFrame : Nat := 8388608

def frame (body : Bytes) : Bytes :=
  Bytes.ofWord body.length.toUInt32 ++ body

/-- The octets that have arrived and belong to no frame yet. -/
structure Deframer where
  /-- The length of the frame that is being read, once it has arrived. -/
  expected : Option Nat := none
  pending : Bytes := []
  deriving DecidableEq, Repr

namespace Deframer

def push (d : Deframer) (octets : Bytes) : Deframer :=
  { d with pending := d.pending ++ octets }

/-- Takes the length of a frame off the octets, if it is not known and has arrived. -/
def readLength (d : Deframer) : Except Fault Deframer :=
  match d.expected, d.pending with
  | none, a :: b :: c :: e :: rest =>
      let n := (Bytes.word a b c e).toNat
      if maxFrame < n then .error .frameTooLong else .ok ⟨some n, rest⟩
  | _, _ => .ok d

/-- Takes a frame off the octets, if one has arrived whole. -/
def next (d : Deframer) : Except Fault (Option Bytes × Deframer) := do
  let d ← d.readLength
  match d.expected.bind fun n => Bytes.take? n d.pending with
  | some (body, rest) => pure (some body, ⟨none, rest⟩)
  | none => pure (none, d)

/-- Whether the connection may end here. A frame whose length alone has arrived counts as none. -/
def atEnd (d : Deframer) : Bool :=
  d.pending = []

end Deframer

end SshTunnel.Mux
