import SshTunnel.Mux.Fault
import SshTunnel.Mux.Wire

/-!
# Messages of a control connection

`Outbound` are the messages that a client sends, `Inbound` the parts of the master's messages that
matter once a channel is open.
-/

namespace SshTunnel.Mux

def helloKind : UInt32 := 0x00000001
def proxyKind : UInt32 := 0x1000000F
def permissionDeniedKind : UInt32 := 0x80000002
def failureKind : UInt32 := 0x80000003
def proxyReplyKind : UInt32 := 0x8000000F
def globalRequestKind : UInt8 := 80
def requestFailureKind : UInt8 := 82
def openKind : UInt8 := 90
def openConfirmationKind : UInt8 := 91
def openFailureKind : UInt8 := 92
def windowAdjustKind : UInt8 := 93
def dataKind : UInt8 := 94
def extendedDataKind : UInt8 := 95
def eofKind : UInt8 := 96
def closeKind : UInt8 := 97
def channelRequestKind : UInt8 := 98
def channelFailureKind : UInt8 := 100

def version : UInt32 := 4

def requestNumber : UInt32 := 1

def localChannel : UInt32 := 0

def localWindow : UInt32 := 2 * 1024 * 1024

def localMaxPacket : UInt32 := 32 * 1024

/-- A message that a client sends. -/
inductive Outbound where
  | hello
  | proxy
  | channelOpen (target : Target)
  | data (channel : UInt32) (payload : Bytes)
  | windowAdjust (channel amount : UInt32)
  | eof (channel : UInt32)
  | close (channel : UInt32)
  | channelFailure (channel : UInt32)
  | requestFailure
  deriving DecidableEq, Repr

def Outbound.fields : Outbound → List Field
  | hello => [.word helloKind, .word version]
  | proxy => [.word proxyKind, .word requestNumber]
  | channelOpen target =>
      [.byte openKind, .string (Text.Utf8.ofString "direct-tcpip"), .word localChannel,
        .word localWindow, .word localMaxPacket, .string (Text.Utf8.ofString target.host),
        .word target.port.toUInt32, .string (Text.Utf8.ofString "127.0.0.1"), .word 0]
  | data channel payload => [.byte dataKind, .word channel, .string payload]
  | windowAdjust channel amount => [.byte windowAdjustKind, .word channel, .word amount]
  | eof channel => [.byte eofKind, .word channel]
  | close channel => [.byte closeKind, .word channel]
  | channelFailure channel => [.byte channelFailureKind, .word channel]
  | requestFailure => [.byte requestFailureKind]

def Outbound.encode (m : Outbound) : Bytes :=
  encodeFields m.fields

/-- A message of the master while a channel is open. -/
inductive Inbound where
  | data (payload : Bytes)
  | extendedData (payload : Bytes)
  | windowAdjust (amount : UInt32)
  | eof
  | close
  | channelRequest (wantReply : Bool)
  | globalRequest (wantReply : Bool)
  /-- A message that is left unanswered. -/
  | other (kind : UInt8)
  deriving DecidableEq, Repr

def readGlobalRequest? (s : Bytes) : Option Bool := do
  let (_, s) ← readText? s
  let (wantReply, _) ← readFlag? s
  pure wantReply

def Inbound.readAfter? (kind : UInt8) (s : Bytes) : Option Inbound :=
  if kind = dataKind then do
    let (_, s) ← readWord? s
    let (payload, _) ← readString? s
    pure (.data payload)
  else if kind = extendedDataKind then do
    let (_, s) ← readWord? s
    let (_, s) ← readWord? s
    let (payload, _) ← readString? s
    pure (.extendedData payload)
  else if kind = windowAdjustKind then do
    let (_, s) ← readWord? s
    let (amount, _) ← readWord? s
    pure (.windowAdjust amount)
  else if kind = eofKind then some .eof
  else if kind = closeKind then some .close
  else if kind = channelRequestKind then do
    let (_, s) ← readWord? s
    let (_, s) ← readText? s
    let (wantReply, _) ← readFlag? s
    pure (.channelRequest wantReply)
  else if kind = globalRequestKind then .globalRequest <$> readGlobalRequest? s
  else some (.other kind)

def Inbound.ofFrame (body : Bytes) : Except Fault Inbound :=
  match body with
  | [] => .error .truncated
  | kind :: s =>
      match readAfter? kind s with
      | some m => .ok m
      | none => .error .truncated

end SshTunnel.Mux
