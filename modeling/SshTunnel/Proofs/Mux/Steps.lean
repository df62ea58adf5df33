import Mathlib.Algebra.Ring.Nat
import SshTunnel.Proofs.Mux.Line

/-!
# What comes of a frame

`Pump.Outcome` tells what a pump does on a frame of the master, seen from the outside: the frame is
malformed, it ends the pump (`Pump.Ends`), or it is handled (`Pump.Handles`). What a pump answers
carries no data and tells no end (`Pump.Answers`), and it leaves alone what belongs to the caller.
-/

namespace SshTunnel.Mux

/-! ## What messages mean to the other side -/

namespace Outbound

@[simp] def payload : Outbound → Bytes
  | data _ payload => payload
  | _ => []

@[simp] def isData : Outbound → Bool
  | data _ _ => true
  | _ => false

@[simp] def isEof : Outbound → Bool
  | eof _ => true
  | _ => false

@[simp] def isClose : Outbound → Bool
  | close _ => true
  | _ => false

/-- How much more data a message allows the master to send. -/
@[simp] def credit : Outbound → Nat
  | windowAdjust _ amount => amount.toNat
  | _ => 0

end Outbound

namespace Inbound

@[simp] def payload : Inbound → Bytes
  | data payload => payload
  | _ => []

/-- How much of its window the master has used up for a message. -/
@[simp] def size : Inbound → Nat
  | data payload => payload.length
  | extendedData payload => payload.length
  | _ => 0

/-- How much more data a message allows to be sent. -/
@[simp] def grant : Inbound → UInt32
  | windowAdjust amount => amount
  | _ => 0

@[simp] def isEof : Inbound → Bool
  | eof => true
  | _ => false

end Inbound

/-- How much more data messages allow the master to send. -/
def creditOf (messages : List Outbound) : Nat :=
  (messages.map Outbound.credit).sum

@[simp] theorem creditOf_nil : creditOf [] = 0 := rfl

@[simp] theorem creditOf_cons (m : Outbound) (messages : List Outbound) :
    creditOf (m :: messages) = m.credit + creditOf messages := rfl

@[simp] theorem creditOf_append (messages messages' : List Outbound) :
    creditOf (messages ++ messages') = creditOf messages + creditOf messages' := by
  simp [creditOf]

namespace Pump

variable {p p' : Pump}

theorem looksAtPipe_eq_true_iff : p.looksAtPipe = true ↔ 0 < p.limit ∧ p.localEof = false := by
  simp [looksAtPipe]

/-! ## Answers -/

/-- The messages that answer a frame. -/
inductive Answers (p : Pump) : Outbound → Prop
  | windowAdjust (amount : UInt32) (positive : 0 < amount) :
      Answers p (.windowAdjust p.channel amount)
  | close (unsent : p.closeSent = false) : Answers p (.close p.channel)
  | channelFailure : Answers p (.channelFailure p.channel)
  | requestFailure : Answers p .requestFailure

theorem Answers.payload_eq_nil {m : Outbound} (h : p.Answers m) : m.payload = [] := by
  cases h <;> rfl

theorem Answers.not_isData {m : Outbound} (h : p.Answers m) : m.isData = false := by
  cases h <;> rfl

theorem Answers.not_isEof {m : Outbound} (h : p.Answers m) : m.isEof = false := by
  cases h <;> rfl

theorem answers_of_mem_closing {m : Outbound} (h : m ∈ p.closing) : p.Answers m := by
  rw [closing] at h
  split at h
  · simp at h
  · next hunsent =>
      obtain rfl := List.mem_singleton.1 h
      exact .close (by simpa using hunsent)

theorem eof_or_answers_of_mem_endLocal {m : Outbound} (h : m ∈ p.endLocal.sent) :
    m = .eof p.channel ∨ p.Answers m := by
  rcases List.mem_cons.1 h with rfl | h
  · exact .inl rfl
  · split at h
    · exact .inr (answers_of_mem_closing h)
    · simp at h

@[simp] theorem countP_isClose_closing (p : Pump) :
    p.closing.countP Outbound.isClose = (!p.closeSent).toNat := by
  cases h : p.closeSent with
  | true => simp [closing, h]
  | false => simp [closing, h]

@[simp] theorem countP_isEof_closing (p : Pump) : p.closing.countP Outbound.isEof = 0 :=
  List.countP_eq_zero.2 fun _ hm => Bool.eq_false_iff.1 (answers_of_mem_closing hm).not_isEof

@[simp] theorem creditOf_closing (p : Pump) : creditOf p.closing = 0 := by
  rw [closing]
  split <;> rfl

/-! ## Outcomes -/

/-- The messages that end a pump, and the endings. -/
inductive Ends (p : Pump) : Inbound → Ending → Prop
  | close : Ends p .close .closed
  | refuse {payload : Bytes} (refused : p.pipeTakes payload = false) :
      Ends p (.data payload) .pipeClosed

/-- A message is handled in a step, and the pump goes on. -/
structure Handles (p : Pump) (m : Inbound) (step : Step) (p' : Pump) : Prop where
  next : step.next = .ok p'
  not_close : m ≠ .close
  takes : p.pipeTakes m.payload = true
  delivered : step.delivered = m.payload
  answers : ∀ answer ∈ step.sent, p.Answers answer
  closes : step.sent.countP Outbound.isClose = (m.isEof && p.localEof && !p.closeSent).toNat
  /-- What the master has used up is given back or counted. -/
  credit : creditOf step.sent + p'.consumed.toNat = (p.consumed + m.size.toUInt32).toNat
  channel : p'.channel = p.channel
  maxPacket : p'.maxPacket = p.maxPacket
  window : p'.window = p.window + m.grant.toUInt64
  localEof : p'.localEof = p.localEof
  remoteEof : p'.remoteEof = (p.remoteEof || m.isEof)
  closeSent : p'.closeSent = (p.closeSent || m.isEof && p.localEof)
  nearGone : p'.nearGone = p.nearGone

inductive Outcome (p : Pump) (body : Bytes) : Step → Prop
  | malformed {fault : Fault} (unread : Inbound.ofFrame body = .error fault) :
      Outcome p body { next := .error (.fault fault) }
  | ended {m : Inbound} {ending : Ending} (read : Inbound.ofFrame body = .ok m)
      (ends : p.Ends m ending) : Outcome p body { sent := p.closing, next := .error ending }
  | handled {m : Inbound} {step : Step} {p' : Pump} (read : Inbound.ofFrame body = .ok m)
      (handles : p.Handles m step p') : Outcome p body step

/-- What comes of data: it is refused, taken, or taken and answered with more room. -/
theorem receiveData_cases (p : Pump) (payload : Bytes) :
    (p.pipeTakes payload = false ∧
      p.receiveData payload = { sent := p.closing, next := .error .pipeClosed }) ∨
    (p.pipeTakes payload = true ∧ p.consumed + payload.length.toUInt32 < localWindow / 2 ∧
      p.receiveData payload =
        { delivered := payload
          next := .ok { p with consumed := p.consumed + payload.length.toUInt32 } }) ∨
    (p.pipeTakes payload = true ∧ localWindow / 2 ≤ p.consumed + payload.length.toUInt32 ∧
      p.receiveData payload =
        { sent := [.windowAdjust p.channel (p.consumed + payload.length.toUInt32)]
          delivered := payload
          next := .ok { p with consumed := 0 } }) := by
  by_cases htakes : p.pipeTakes payload = true
  · by_cases hhalf : localWindow / 2 ≤ p.consumed + payload.length.toUInt32
    · exact .inr (.inr ⟨htakes, hhalf, by simp [receiveData, htakes, hhalf]⟩)
    · exact .inr (.inl ⟨htakes, UInt32.not_le.1 hhalf, by simp [receiveData, htakes, hhalf]⟩)
  · exact .inl ⟨by simpa using htakes, by simp [receiveData, htakes]⟩

@[simp] theorem pipeTakes_nil (p : Pump) : p.pipeTakes [] = true := rfl

/-- Nothing is put into the pipe once the master has told the end of its data. -/
theorem Handles.payload_eq_nil {m : Inbound} {step : Step} (h : p.Handles m step p')
    (hremote : p.remoteEof = true) : m.payload = [] := by
  have htakes := h.takes
  simpa [pipeTakes, hremote] using htakes

/-- As long as the caller holds its end of the pipe, data ends the pump only when the master has
told the end of it. -/
theorem Ends.remoteEof_or_close {m : Inbound} {ending : Ending} (h : p.Ends m ending)
    (held : p.nearGone = false) : p.remoteEof = true ∨ m = .close := by
  cases h with
  | close => exact .inr rfl
  | refuse refused =>
      rw [pipeTakes, held, Bool.or_false, Bool.or_eq_false_iff] at refused
      exact .inl (by simpa using refused.2)

theorem receiveData_handles {payload : Bytes} (htakes : p.pipeTakes payload = true) :
    ∃ p', p.Handles (.data payload) (p.receiveData payload) p' := by
  rcases p.receiveData_cases payload with ⟨hrefused, -⟩ | ⟨-, -, hstep⟩ | ⟨-, hhalf, hstep⟩
  · simp [htakes] at hrefused
  · refine ⟨{ p with consumed := p.consumed + payload.length.toUInt32 }, ?_⟩
    rw [hstep]
    constructor <;> simp [htakes]
  · have hpositive : 0 < p.consumed + payload.length.toUInt32 :=
      UInt32.lt_of_lt_of_le (by decide) hhalf
    refine ⟨{ p with consumed := 0 }, ?_⟩
    rw [hstep]
    constructor <;> simp [htakes, Answers.windowAdjust _ hpositive]

theorem receiveEof_handles (p : Pump) : ∃ p', p.Handles .eof p.receiveEof p' := by
  refine ⟨{ p with remoteEof := true, closeSent := p.closeSent || p.localEof }, ?_⟩
  constructor
  case answers =>
    intro answer h
    rw [receiveEof] at h
    split at h
    · exact answers_of_mem_closing h
    · simp at h
  all_goals cases h : p.localEof <;> simp [receiveEof, h]

theorem receive_outcome (p : Pump) (m : Inbound) :
    (∃ ending, p.Ends m ending ∧ p.receive m = { sent := p.closing, next := .error ending }) ∨
      ∃ p', p.Handles m (p.receive m) p' := by
  cases m with
  | data payload =>
      by_cases htakes : p.pipeTakes payload = true
      · exact .inr (receiveData_handles htakes)
      · exact .inl ⟨_, .refuse (by simpa using htakes), by simp [receive, receiveData, htakes]⟩
  | close => exact .inl ⟨_, .close, rfl⟩
  | eof => exact .inr p.receiveEof_handles
  | extendedData payload =>
      refine .inr ⟨{ p with consumed := p.consumed + payload.length.toUInt32 }, ?_⟩
      constructor <;> simp [receive]
  | windowAdjust amount =>
      refine .inr ⟨{ p with window := p.window + amount.toUInt64 }, ?_⟩
      constructor <;> simp [receive]
  | channelRequest wantReply =>
      refine .inr ⟨p, ?_⟩
      cases wantReply <;> constructor <;> simp [receive, Answers.channelFailure]
  | globalRequest wantReply =>
      refine .inr ⟨p, ?_⟩
      cases wantReply <;> constructor <;> simp [receive, Answers.requestFailure]
  | other kind =>
      refine .inr ⟨p, ?_⟩
      constructor <;> simp [receive]

theorem receiveFrame_outcome (p : Pump) (body : Bytes) : p.Outcome body (p.receiveFrame body) := by
  rw [receiveFrame]
  cases hread : Inbound.ofFrame body with
  | error fault => exact .malformed hread
  | ok m =>
      rcases p.receive_outcome m with ⟨ending, hends, hstep⟩ | ⟨p', hhandles⟩
      · simp only [hstep]
        exact .ended hread hends
      · exact .handled hread hhandles

theorem answers_of_mem_receiveFrame {body : Bytes} {m : Outbound}
    (hm : m ∈ (p.receiveFrame body).sent) : p.Answers m := by
  have houtcome := p.receiveFrame_outcome body
  generalize p.receiveFrame body = step at houtcome hm
  cases houtcome with
  | malformed unread => simp at hm
  | ended read ends => exact answers_of_mem_closing hm
  | handled read handles => exact handles.answers m hm

theorem nearGone_of_receiveFrame {body : Bytes} (h : (p.receiveFrame body).next = .ok p') :
    p'.nearGone = p.nearGone := by
  have houtcome := p.receiveFrame_outcome body
  generalize p.receiveFrame body = step at houtcome h
  cases houtcome with
  | malformed unread => cases h
  | ended read ends => cases h
  | handled read handles =>
      rw [handles.next] at h
      cases h
      exact handles.nearGone

/-! ## The limit -/

theorem limit_le_window (p : Pump) : p.limit ≤ p.window.toNat := by
  rw [limit]
  omega

theorem limit_le (p : Pump) : p.limit ≤ min 32768 p.maxPacket.toNat := by
  have hmax : localMaxPacket.toNat = 32768 := rfl
  rw [limit, hmax]
  omega

end Pump

theorem Line.handles_of_after {line line' : Line} {body : Bytes}
    (h : line.after (line.pump.receiveFrame body) = .ok line') :
    ∃ m p', Inbound.ofFrame body = .ok m ∧
      line.pump.Handles m (line.pump.receiveFrame body) p' ∧ line' = { line with pump := p' } := by
  have houtcome := line.pump.receiveFrame_outcome body
  generalize line.pump.receiveFrame body = step at houtcome h ⊢
  cases houtcome with
  | malformed unread => simp at h
  | ended read ends => simp at h
  | @handled m _ p' read handles =>
      rw [after_of_ok handles.next] at h
      exact ⟨m, p', read, handles, (Except.ok.inj h).symm⟩

theorem Line.answers_of_mem_sentOf {p : Pump} {body : Bytes} {m : Outbound}
    (hm : m ∈ sentOf (.received body :: eventsOf (p.receiveFrame body))) : p.Answers m := by
  rw [sentOf_cons, sentOf_eventsOf] at hm
  exact Pump.answers_of_mem_receiveFrame hm

end SshTunnel.Mux
