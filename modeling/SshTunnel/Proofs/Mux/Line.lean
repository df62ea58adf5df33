import SshTunnel.Mux.Pump

/-!
# A pump at work

A `Line` is a pump with the pipe it serves. `Line.Moves` says what can happen at a line: what the
caller does at its end of the pipe, how many octets the pump takes from the pipe, and which frame of
the master it handles. `Line.Runs` follows a line from the opening of its channel on, whatever
happens and in whatever order, until the pump ends. The events of a run tell what has been written,
received, delivered and sent.
-/

namespace SshTunnel.Mux

structure Line where
  pump : Pump
  /-- The octets that the caller has written and the pump has not taken. -/
  pending : Bytes := []
  /-- Whether the caller writes nothing more. -/
  nearDone : Bool := false
  deriving DecidableEq, Repr

namespace Line

/-! ## Events -/

/-- What is seen of a line. -/
inductive Event where
  | written (octets : Bytes)
  | shutdown
  /-- The caller gives up its end of the pipe. -/
  | dropped
  /-- The pump takes up a frame of the master. -/
  | received (body : Bytes)
  | delivered (octets : Bytes)
  | sent (m : Outbound)
  /-- The connection ends or breaks. -/
  | cut
  deriving DecidableEq, Repr

namespace Event

@[simp] def input : Event → Bytes
  | written octets => octets
  | _ => []

@[simp] def output : Event → Bytes
  | delivered octets => octets
  | _ => []

@[simp] def frames : Event → List Bytes
  | received body => [body]
  | _ => []

@[simp] def messages : Event → List Outbound
  | sent m => [m]
  | _ => []

end Event

def writtenOf (events : List Event) : Bytes :=
  events.flatMap Event.input

/-- The octets that have been put into the pipe. -/
def deliveredOf (events : List Event) : Bytes :=
  events.flatMap Event.output

def framesOf (events : List Event) : List Bytes :=
  events.flatMap Event.frames

def sentOf (events : List Event) : List Outbound :=
  events.flatMap Event.messages

def readOf (events : List Event) : List Inbound :=
  (framesOf events).filterMap fun body => (Inbound.ofFrame body).toOption

section Events

variable (e : Event) (events events' : List Event)

@[simp] theorem writtenOf_nil : writtenOf [] = [] := rfl

@[simp] theorem deliveredOf_nil : deliveredOf [] = [] := rfl

@[simp] theorem framesOf_nil : framesOf [] = [] := rfl

@[simp] theorem sentOf_nil : sentOf [] = [] := rfl

@[simp] theorem writtenOf_cons : writtenOf (e :: events) = e.input ++ writtenOf events := rfl

@[simp] theorem deliveredOf_cons :
    deliveredOf (e :: events) = e.output ++ deliveredOf events := rfl

@[simp] theorem framesOf_cons : framesOf (e :: events) = e.frames ++ framesOf events := rfl

@[simp] theorem sentOf_cons : sentOf (e :: events) = e.messages ++ sentOf events := rfl

@[simp] theorem writtenOf_append :
    writtenOf (events ++ events') = writtenOf events ++ writtenOf events' :=
  List.flatMap_append

@[simp] theorem deliveredOf_append :
    deliveredOf (events ++ events') = deliveredOf events ++ deliveredOf events' :=
  List.flatMap_append

@[simp] theorem framesOf_append :
    framesOf (events ++ events') = framesOf events ++ framesOf events' :=
  List.flatMap_append

@[simp] theorem sentOf_append : sentOf (events ++ events') = sentOf events ++ sentOf events' :=
  List.flatMap_append

@[simp] theorem readOf_nil : readOf [] = [] := rfl

@[simp] theorem readOf_eq_nil {events : List Event} (h : framesOf events = []) :
    readOf events = [] := by
  simp [readOf, h]

@[simp] theorem readOf_append : readOf (events ++ events') = readOf events ++ readOf events' := by
  simp [readOf]

theorem framesOf_map_sent (messages : List Outbound) : framesOf (messages.map .sent) = [] := by
  simp [framesOf]

theorem sentOf_map_sent (messages : List Outbound) : sentOf (messages.map .sent) = messages := by
  simp [sentOf, List.flatMap_map]

end Events

def eventsOf (step : Step) : List Event :=
  .delivered step.delivered :: step.sent.map .sent

section Steps

variable (step : Step)

@[simp] theorem writtenOf_eventsOf : writtenOf (eventsOf step) = [] := by
  simp [eventsOf, writtenOf]

@[simp] theorem deliveredOf_eventsOf : deliveredOf (eventsOf step) = step.delivered := by
  simp [eventsOf, deliveredOf, List.flatMap_map]

@[simp] theorem framesOf_eventsOf : framesOf (eventsOf step) = [] := by
  simp [eventsOf, framesOf]

@[simp] theorem sentOf_eventsOf : sentOf (eventsOf step) = step.sent := by
  simp [eventsOf, sentOf, List.flatMap_map]

theorem readOf_received {body : Bytes} {m : Inbound} (read : Inbound.ofFrame body = .ok m) :
    readOf (.received body :: eventsOf step) = [m] := by
  simp [readOf, read, Except.toOption]

end Steps

/-! ## Runs -/

def after (line : Line) (step : Step) : Except Ending Line :=
  step.next.map fun pump => { line with pump }

@[simp] theorem after_error (line : Line) (messages : List Outbound) (octets : Bytes)
    (ending : Ending) : line.after ⟨messages, octets, .error ending⟩ = .error ending := rfl

theorem after_of_ok {line : Line} {step : Step} {p : Pump} (h : step.next = .ok p) :
    line.after step = .ok { line with pump := p } := by
  rw [after, h]
  rfl

/-- What can happen at a line, and what comes of it. The pump takes any octets from the front of the
pipe, as long as its limit allows them. -/
inductive Moves : Line → List Event → Except Ending Line → Prop
  | write {line : Line} (octets : Bytes) (opened : line.nearDone = false) :
      Moves line [.written octets] (.ok { line with pending := line.pending ++ octets })
  | shutdown {line : Line} : Moves line [.shutdown] (.ok { line with nearDone := true })
  | drop {line : Line} :
      Moves line [.dropped]
        (.ok { line with pump := { line.pump with nearGone := true }, nearDone := true })
  | take {line : Line} (octets rest : Bytes) (looks : line.pump.looksAtPipe = true)
      (front : line.pending = octets ++ rest) (nonempty : octets ≠ [])
      (fits : octets.length ≤ line.pump.limit) :
      Moves line (eventsOf (line.pump.takeLocal octets))
        ({ line with pending := rest }.after (line.pump.takeLocal octets))
  | finish {line : Line} (looks : line.pump.looksAtPipe = true) (taken : line.pending = [])
      (done : line.nearDone = true) :
      Moves line (eventsOf line.pump.endLocal) (line.after line.pump.endLocal)
  | receive {line : Line} (body : Bytes) :
      Moves line (.received body :: eventsOf (line.pump.receiveFrame body))
        (line.after (line.pump.receiveFrame body))
  | disconnect {line : Line} : Moves line [.cut] (.error .disconnected)
  | breakOff {line : Line} (fault : Fault) : Moves line [.cut] (.error (.fault fault))

/-- What can have happened at the line of a channel, and what has come of it: the line as it is, or
the ending of its pump. -/
inductive Runs (c : RemoteChannel) : List Event → Except Ending Line → Prop
  | opened : Runs c [] (.ok { pump := .ofChannel c })
  | move {events moved : List Event} {line : Line} {next : Except Ending Line}
      (run : Runs c events (.ok line)) (move : Moves line moved next) :
      Runs c (events ++ moved) next

theorem Runs.move_of_mem_sentOf {c : RemoteChannel} {events : List Event}
    {next : Except Ending Line} (run : Runs c events next) {m : Outbound} (hm : m ∈ sentOf events) :
    ∃ before line moved next', Runs c before (.ok line) ∧ Moves line moved next' ∧
      m ∈ sentOf moved := by
  induction run with
  | opened => simp at hm
  | move run move ih =>
      rw [sentOf_append] at hm
      rcases List.mem_append.1 hm with hm | hm
      · exact ih hm
      · exact ⟨_, _, _, _, run, move, hm⟩

end Line

end SshTunnel.Mux
