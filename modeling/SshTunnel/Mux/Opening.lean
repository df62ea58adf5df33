import SshTunnel.Mux.Framing
import SshTunnel.Mux.Message

/-!
# Opening a channel

The client greets the master, asks for a connection that passes on the messages of channels, and
opens a channel to the target. `Phase.receive` tells what the client does with the next frame of
the master.
-/

namespace SshTunnel.Mux

/-- What the client waits for. -/
inductive Phase where
  | hello
  | proxy
  | confirmation
  deriving DecidableEq, Repr

/-- What the master tells about the channel it has opened. -/
structure RemoteChannel where
  id : UInt32
  window : UInt32
  maxPacket : UInt32
  deriving DecidableEq, Repr

inductive Opening where
  | waiting (phase : Phase)
  | opened (channel : RemoteChannel)
  | failed (fault : Fault)
  deriving DecidableEq, Repr

/-- The value of a field, or the fault that the message ends too soon. -/
def orTruncated (field : Option α) : Except Fault α :=
  match field with
  | some a => .ok a
  | none => .error .truncated

def checkHello (body : Bytes) : Except Fault Unit := do
  let (kind, s) ← orTruncated (readWord? body)
  if kind ≠ helloKind then throw (.unexpectedHello kind)
  let (v, _) ← orTruncated (readWord? s)
  if v ≠ version then throw (.unsupportedVersion v)

def checkProxyReply (body : Bytes) : Except Fault Unit := do
  let (kind, s) ← orTruncated (readWord? body)
  let (request, s) ← orTruncated (readWord? s)
  if request ≠ requestNumber then throw (.unknownRequest request)
  if kind = proxyReplyKind then pure ()
  else if kind = permissionDeniedKind then
    let (reason, _) ← orTruncated (readText? s)
    throw (.permissionDenied reason)
  else if kind = failureKind then
    let (reason, _) ← orTruncated (readText? s)
    throw (.failure reason)
  else throw (.unexpectedReply kind)

def readConfirmation? (s : Bytes) : Option RemoteChannel := do
  let (_, s) ← readWord? s
  let (id, s) ← readWord? s
  let (window, s) ← readWord? s
  let (maxPacket, _) ← readWord? s
  pure ⟨id, window, maxPacket⟩

def readRefusal? (s : Bytes) : Option (UInt32 × String) := do
  let (_, s) ← readWord? s
  let (code, s) ← readWord? s
  let (reason, _) ← readText? s
  pure (code, reason)

/-- What the client sends on a frame while the channel is being opened, and what comes of the
frame. -/
def receiveWhileOpening (target : Target) (body : Bytes) : List Outbound × Opening :=
  match body with
  | [] => ([], .failed .truncated)
  | kind :: s =>
      if kind = openConfirmationKind then
        match readConfirmation? s with
        | some channel => ([], .opened channel)
        | none => ([], .failed .truncated)
      else if kind = openFailureKind then
        match readRefusal? s with
        | some (code, reason) => ([], .failed (.refused target code reason))
        | none => ([], .failed .truncated)
      else if kind = globalRequestKind then
        match readGlobalRequest? s with
        | some wantReply => (if wantReply then [.requestFailure] else [], .waiting .confirmation)
        | none => ([], .failed .truncated)
      else ([], .waiting .confirmation)

def fits (target : Target) : Bool :=
  (Outbound.channelOpen target).encode.length ≤ maxFrame

/-- What the client sends on the next frame of the master, and what comes of the frame. -/
def Phase.receive (target : Target) (phase : Phase) (body : Bytes) : List Outbound × Opening :=
  match phase with
  | hello =>
      match checkHello body with
      | .ok _ => ([.proxy], .waiting .proxy)
      | .error fault => ([], .failed fault)
  | proxy =>
      match checkProxyReply body with
      | .ok _ =>
          if fits target then ([.channelOpen target], .waiting .confirmation)
          else ([], .failed .longRequest)
      | .error fault => ([], .failed fault)
  | confirmation => receiveWhileOpening target body

end SshTunnel.Mux
