import SshTunnel.Target
import SshTunnel.Text.Quoted

/-!
# Faults of a control connection

Why a channel through a control socket cannot be opened, or does not go on.
-/

namespace SshTunnel.Mux

/-- Why a control connection fails. -/
inductive Fault where
  /-- A message ends too soon. -/
  | truncated
  | unexpectedHello (kind : UInt32)
  | unsupportedVersion (version : UInt32)
  | unknownRequest (request : UInt32)
  | permissionDenied (reason : String)
  | failure (reason : String)
  | unexpectedReply (kind : UInt32)
  | refused (target : Target) (code : UInt32) (reason : String)
  | closed
  | frameTooLong
  /-- The connection ends within a frame. -/
  | brokenFrame
  | longRequest
  deriving DecidableEq, Repr

def hexText (n : UInt32) : String :=
  "0x" ++ String.ofList (Text.hexDigits n.toNat)

def Fault.message : Fault → String
  | truncated => "truncated message"
  | unexpectedHello kind => "expected hello, got message " ++ hexText kind
  | unsupportedVersion version => s!"unsupported mux protocol version {version.toNat}"
  | unknownRequest request => s!"reply for unknown request {request.toNat}"
  | permissionDenied reason => "permission denied: " ++ reason
  | failure reason => reason
  | unexpectedReply kind => "unexpected proxy reply " ++ hexText kind
  | refused target code reason =>
      "channel to " ++ target.text ++ s!" refused (code {code.toNat}): " ++ reason
  | closed => "control master closed the connection"
  | frameTooLong => "read: frame size too big"
  | brokenFrame => "read: bytes remaining on stream"
  | longRequest => "write: frame size too big"

end SshTunnel.Mux
