import SshTunnel.Mux.Framing
import SshTunnel.Mux.Pump

/-!
# Sessions of a control connection

A session is the client's side of a control connection from the greeting on, with the pipe whose
near end the caller gets as soon as the channel is open. `Session.apply` takes in what the master
or the caller does, and `Session.settle` lets the client work until there is nothing left for it to
do.
-/

namespace SshTunnel.Mux

inductive Client where
  | opening (phase : Phase)
  | pumping (pump : Pump)
  /-- The channel could not be opened. -/
  | failed (fault : Fault)
  /-- The channel was open, and its pump has ended. -/
  | ended (ending : Ending)
  deriving DecidableEq, Repr

/-- A control connection seen from the client. -/
structure Session where
  target : Target
  client : Client := .opening .hello
  deframer : Deframer := {}
  /-- Whether the master sends nothing more. -/
  masterDone : Bool := false
  /-- The octets that the caller has written and the pump has not taken. -/
  written : Bytes := []
  /-- Whether the caller writes nothing more. -/
  nearDone : Bool := false
  /-- Whether the caller has given up its end of the pipe. -/
  nearGone : Bool := false
  /-- The messages that the client has sent, the last first. -/
  sent : List Outbound := []
  /-- The octets that the pump has put into the pipe, the last first. -/
  delivered : List Bytes := []
  deriving DecidableEq, Repr

/-- What the master or the caller does. -/
inductive Act where
  | arrive (octets : Bytes)
  | masterDone
  | write (octets : Bytes)
  | shutdown
  | drop
  deriving DecidableEq, Repr

namespace Session

def start (target : Target) : Session where
  target
  sent := [.hello]

/-- Takes in what comes of a frame while the channel is being opened. -/
def afterOpening (s : Session) (sent : List Outbound) (o : Opening) : Session :=
  let client : Client :=
    match o with
    | .waiting phase => .opening phase
    | .opened channel => .pumping (.ofChannel channel)
    | .failed fault => .failed fault
  { s with client, sent := sent.reverse ++ s.sent }

def afterStep (s : Session) (step : Step) : Session :=
  let client : Client :=
    match step.next with
    | .ok pump => .pumping pump
    | .error ending => .ended ending
  { s with client, sent := step.sent.reverse ++ s.sent, delivered := step.delivered :: s.delivered }

def endFault (d : Deframer) : Fault :=
  if d.atEnd then .closed else .brokenFrame

def ending (d : Deframer) : Ending :=
  if d.atEnd then .disconnected else .fault .brokenFrame

/-- The client goes on while the channel is being opened; it cannot without a frame. -/
def stepOpening (s : Session) (phase : Phase) : Option Session :=
  match s.deframer.next with
  | .error fault => some { s with client := .failed fault }
  | .ok (some body, deframer) =>
      let (sent, o) := phase.receive s.target body
      some ({ s with deframer }.afterOpening sent o)
  | .ok (none, deframer) =>
      if s.masterDone then some { s with client := .failed (endFault deframer) } else none

def stepFrame (s : Session) (pump : Pump) : Option Session :=
  match s.deframer.next with
  | .error fault => some { s with client := .ended (.fault fault) }
  | .ok (some body, deframer) => some ({ s with deframer }.afterStep (pump.receiveFrame body))
  | .ok (none, deframer) =>
      if s.masterDone then some { s with client := .ended (ending deframer) } else none

def stepPump (s : Session) (pump : Pump) : Option Session :=
  if pump.looksAtPipe && !s.written.isEmpty then
    some ({ s with written := s.written.drop pump.limit }.afterStep
      (pump.takeLocal (s.written.take pump.limit)))
  else if pump.looksAtPipe && s.nearDone then some (s.afterStep pump.endLocal)
  else s.stepFrame { pump with nearGone := s.nearGone }

def step? (s : Session) : Option Session :=
  match s.client with
  | .opening phase => s.stepOpening phase
  | .pumping pump => s.stepPump pump
  | .failed _ | .ended _ => none

def run : Nat → Session → Session
  | 0, s => s
  | fuel + 1, s =>
      match s.step? with
      | some next => run fuel next
      | none => s

/-- The client goes on as long as it can. Every step takes in an octet or an end. -/
def settle (s : Session) : Session :=
  s.run (s.deframer.pending.length + s.written.length + 4)

def apply (s : Session) : Act → Session
  | .arrive octets => { s with deframer := s.deframer.push octets }
  | .masterDone => { s with masterDone := true }
  | .write octets => { s with written := s.written ++ octets }
  | .shutdown => { s with nearDone := true }
  | .drop => { s with nearDone := true, nearGone := true }

def isOver (s : Session) : Bool :=
  match s.client with
  | .failed _ | .ended _ => true
  | .opening _ | .pumping _ => false

/-- Whether the caller has got an end of the pipe and still holds it. -/
def hasNearEnd (s : Session) : Bool :=
  !s.nearGone &&
    match s.client with
    | .pumping _ | .ended _ => true
    | .opening _ | .failed _ => false

def takesWrites (s : Session) : Bool :=
  s.hasNearEnd && !s.nearDone && !s.isOver

def nearSeesEnd (s : Session) : Bool :=
  s.hasNearEnd &&
    match s.client with
    | .pumping pump => pump.remoteEof
    | .ended _ => true
    | .opening _ | .failed _ => false

end Session

end SshTunnel.Mux
