import SshTunnel.Mux.Message
import SshTunnel.Mux.Opening

/-!
# Pumping an open channel

Once a channel is open, a pump moves octets between it and a pipe, whose near end belongs to the
caller. The pump takes octets from the pipe as far as the master's window allows (`takeLocal`),
notices the end of the pipe (`endLocal`), and handles the master's messages (`receive`). Both ways
end on their own; when both have ended, the channel is closed.
-/

namespace SshTunnel.Mux

/-- The state of a pump. -/
structure Pump where
  channel : UInt32
  maxPacket : UInt32
  /-- How much data the master still takes. -/
  window : UInt64
  /-- How much data has come in since the master was last granted more. -/
  consumed : UInt32 := 0
  /-- Whether the end of the pipe has been told to the master. -/
  localEof : Bool := false
  /-- Whether the master has told the end of its data; the pipe takes no octets from then on. -/
  remoteEof : Bool := false
  closeSent : Bool := false
  /-- Whether the near end of the pipe is gone, so that the pipe takes no octets. -/
  nearGone : Bool := false
  deriving DecidableEq, Repr

inductive Ending where
  /-- The master has closed the connection. -/
  | disconnected
  /-- The master has closed the channel. -/
  | closed
  /-- The pipe takes no octets. -/
  | pipeClosed
  | fault (fault : Fault)
  deriving DecidableEq, Repr

/-- What a pump does next: the messages it sends, the octets it puts into the pipe, and its state
unless it ends. -/
structure Step where
  sent : List Outbound := []
  delivered : Bytes := []
  next : Except Ending Pump

namespace Pump

def ofChannel (c : RemoteChannel) : Pump where
  channel := c.id
  maxPacket := c.maxPacket
  window := c.window.toUInt64

/-- How many octets the next data message may carry. -/
def limit (p : Pump) : Nat :=
  min (min p.window.toNat p.maxPacket.toNat) localMaxPacket.toNat

def looksAtPipe (p : Pump) : Bool :=
  0 < p.limit && !p.localEof

def closing (p : Pump) : List Outbound :=
  if p.closeSent then [] else [.close p.channel]

/-- Octets, as many as the limit allows, are taken from the pipe. -/
def takeLocal (p : Pump) (octets : Bytes) : Step where
  sent := [.data p.channel octets]
  next := .ok { p with window := p.window - octets.length.toUInt64 }

def endLocal (p : Pump) : Step where
  sent := .eof p.channel :: if p.remoteEof then p.closing else []
  next := .ok { p with localEof := true, closeSent := p.closeSent || p.remoteEof }

def pipeTakes (p : Pump) (octets : Bytes) : Bool :=
  octets.isEmpty || !(p.remoteEof || p.nearGone)

/-- Data of the master is put into the pipe. The master is granted more once half of its window is
used up. -/
def receiveData (p : Pump) (payload : Bytes) : Step :=
  if p.pipeTakes payload then
    let consumed := p.consumed + payload.length.toUInt32
    if localWindow / 2 ≤ consumed then
      { sent := [.windowAdjust p.channel consumed]
        delivered := payload
        next := .ok { p with consumed := 0 } }
    else { delivered := payload, next := .ok { p with consumed } }
  else { sent := p.closing, next := .error .pipeClosed }

def receiveEof (p : Pump) : Step where
  sent := if p.localEof then p.closing else []
  next := .ok { p with remoteEof := true, closeSent := p.closeSent || p.localEof }

def receive (p : Pump) : Inbound → Step
  | .data payload => p.receiveData payload
  | .extendedData payload =>
      { next := .ok { p with consumed := p.consumed + payload.length.toUInt32 } }
  | .windowAdjust amount => { next := .ok { p with window := p.window + amount.toUInt64 } }
  | .eof => p.receiveEof
  | .close => { sent := p.closing, next := .error .closed }
  | .channelRequest wantReply =>
      { sent := if wantReply then [.channelFailure p.channel] else [], next := .ok p }
  | .globalRequest wantReply =>
      { sent := if wantReply then [.requestFailure] else [], next := .ok p }
  | .other _ => { next := .ok p }

def receiveFrame (p : Pump) (body : Bytes) : Step :=
  match Inbound.ofFrame body with
  | .ok m => p.receive m
  | .error fault => { next := .error (.fault fault) }

end Pump

end SshTunnel.Mux
