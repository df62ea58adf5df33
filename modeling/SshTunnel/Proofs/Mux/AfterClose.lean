import SshTunnel.Proofs.Mux.Credit
import SshTunnel.Proofs.Mux.Flags

/-!
# What follows the closing of a channel

When both sides have told the end of their data, the channel is closed, and the pump goes on until
the master closes it too. What it still sends on the channel then are replies: a window given back,
or the refusal of a request. It sends a reply on a request that asks for one, and on empty data if
half of the window waits to be given back, closed or not. So nothing follows the closing if and only
if the master sends neither (`Runs.silent_iff`).
-/

namespace SshTunnel.Mux

/-- Whether a message answers the master on the channel without closing it. -/
@[simp] def Outbound.isReply : Outbound → Bool
  | windowAdjust _ _ | channelFailure _ => true
  | _ => false

namespace Pump

variable {p : Pump} {body : Bytes}

theorem not_isReply_of_mem_closing {m : Outbound} (h : m ∈ p.closing) : m.isReply = false := by
  rw [closing] at h
  split at h
  · simp at h
  · rw [List.mem_singleton.1 h]
    rfl

theorem receiveFrame_of_request (p : Pump)
    (read : Inbound.ofFrame body = .ok (.channelRequest true)) :
    p.receiveFrame body = { sent := [.channelFailure p.channel], next := .ok p } := by
  simp [receiveFrame, read, receive]

theorem receiveFrame_of_empty (read : Inbound.ofFrame body = .ok (.data []))
    (half : localWindow / 2 ≤ p.consumed) :
    (p.receiveFrame body).sent = [.windowAdjust p.channel p.consumed] := by
  simp [receiveFrame, read, receive, receiveData, half]

/-- A reply comes alone: it refuses a request, or gives back what data has brought to half. -/
theorem receiveFrame_of_isReply {m : Outbound} (hm : m ∈ (p.receiveFrame body).sent)
    (hreply : m.isReply = true) :
    (p.receiveFrame body).sent = [m] ∧
      (Inbound.ofFrame body = .ok (.channelRequest true) ∨
        ∃ payload, Inbound.ofFrame body = .ok (.data payload) ∧ p.pipeTakes payload = true ∧
          localWindow / 2 ≤ p.consumed + payload.length.toUInt32) := by
  have hclosing : m ∉ p.closing := fun h =>
    Bool.false_ne_true ((not_isReply_of_mem_closing h).symm.trans hreply)
  cases hread : Inbound.ofFrame body with
  | error fault => simp [receiveFrame, hread] at hm
  | ok inbound =>
      simp only [receiveFrame, hread] at hm ⊢
      cases inbound with
      | data payload =>
          rcases p.receiveData_cases payload with
            ⟨-, hstep⟩ | ⟨-, -, hstep⟩ | ⟨htakes, hhalf, hstep⟩
          · rw [receive, hstep] at hm
            exact absurd hm hclosing
          · simp [receive, hstep] at hm
          · rw [receive, hstep] at hm ⊢
            obtain rfl := List.mem_singleton.1 hm
            exact ⟨rfl, .inr ⟨payload, rfl, htakes, hhalf⟩⟩
      | eof =>
          rw [receive, receiveEof] at hm
          split at hm
          · exact absurd hm hclosing
          · simp at hm
      | close => exact absurd hm hclosing
      | channelRequest wantReply =>
          cases wantReply with
          | false => simp [receive] at hm
          | true => exact ⟨by rw [List.mem_singleton.1 hm]; rfl, .inl rfl⟩
      | globalRequest wantReply =>
          cases wantReply with
          | false => simp [receive] at hm
          | true =>
              obtain rfl := List.mem_singleton.1 hm
              simp at hreply
      | extendedData | windowAdjust | other => simp [receive] at hm

end Pump

namespace Line

variable {c : RemoteChannel} {events moved : List Event} {line line' : Line}
  {next : Except Ending Line}

/-! ## What waits to be given back -/

/-- How much of what the master has sent has not been given back, in a word. -/
def owedOf (events : List Event) : UInt32 :=
  (receivedOf events - creditOf (sentOf events)).toUInt32

/-- What has been given back, what the pump counts, and the words by which the count has gone round
make up what the master has sent. -/
def Counted (events : List Event) (p : Pump) : Prop :=
  ∃ rounds, creditOf (sentOf events) + p.consumed.toNat + 2 ^ 32 * rounds = receivedOf events

theorem Counted.consumed_eq {p : Pump} (h : Counted events p) : p.consumed = owedOf events := by
  obtain ⟨rounds, h⟩ := h
  apply UInt32.toNat.inj
  have hlt := p.consumed.toNat_lt
  rw [owedOf, UInt32.toNat_ofNat']
  omega

theorem Moves.counted (move : Moves line moved next) (hnext : next = .ok line')
    (h : Counted events line.pump) : Counted (events ++ moved) line'.pump := by
  obtain ⟨rounds, h⟩ := h
  cases move with
  | take octets rest =>
      obtain rfl := Except.ok.inj hnext
      exact ⟨rounds, by simpa [receivedOf, Pump.takeLocal] using h⟩
  | finish =>
      obtain rfl := Except.ok.inj hnext
      exact ⟨rounds, by simpa [receivedOf, creditOf_endLocal] using h⟩
  | receive body =>
      obtain ⟨m, p', read, handles, rfl⟩ := handles_of_after hnext
      have hcredit := handles.credit
      rw [UInt32.toNat_add, UInt32.toNat_ofNat'] at hcredit
      refine ⟨rounds + (line.pump.consumed.toNat + m.size) / 2 ^ 32, ?_⟩
      rw [sentOf_append, creditOf_append, sentOf_cons, sentOf_eventsOf, receivedOf_append,
        receivedOf_received _ read]
      change _ + creditOf (line.pump.receiveFrame body).sent + p'.consumed.toNat + _ = _
      omega
  | write | shutdown | drop =>
      obtain rfl := Except.ok.inj hnext
      exact ⟨rounds, by simpa [receivedOf] using h⟩
  | disconnect | breakOff => cases hnext

theorem Runs.counted (run : Runs c events (.ok line)) : Counted events line.pump := by
  generalize hnext : Except.ok line = next at run
  induction run generalizing line with
  | opened =>
      obtain rfl := Except.ok.inj hnext
      exact ⟨0, rfl⟩
  | move run move ih => exact move.counted hnext.symm (ih rfl)

/-! ## After the closing -/

def Silent (c : RemoteChannel) (messages : List Outbound) : Prop :=
  messages.Pairwise fun m m' => m = .close c.id → m'.isReply = false

theorem Silent.of_append {before after : List Outbound} {m : Outbound}
    (h : Silent c (before ++ .close c.id :: after)) (hm : m ∈ after) : m.isReply = false :=
  (List.pairwise_cons.1 (List.pairwise_append.1 h).2.1).1 m hm rfl

theorem silent_of_singleton {messages : List Outbound}
    (h : ∀ m ∈ messages, m.isReply = true → messages = [m]) : Silent c messages := by
  by_cases hreply : ∃ m ∈ messages, m.isReply = true
  · obtain ⟨m, hm, hreply⟩ := hreply
    rw [h m hm hreply]
    exact List.pairwise_singleton _ _
  · exact List.pairwise_of_forall_mem_list fun _ _ m' hm' _ =>
      Bool.eq_false_iff.2 fun hreply' => hreply ⟨m', hm', hreply'⟩

/-- A frame on which the pump does not reply once the channel has been closed. -/
def Unanswered (before : List Event) (body : Bytes) : Prop :=
  Inbound.ofFrame body ≠ .ok (.channelRequest true) ∧
    (Inbound.ofFrame body = .ok (.data []) → owedOf before < localWindow / 2)

theorem unanswered_of_read {before : List Event} {body : Bytes} {m : Inbound}
    (read : Inbound.ofFrame body = .ok m) (hrequest : m ≠ .channelRequest true)
    (hdata : m ≠ .data []) : Unanswered before body := by
  rw [Unanswered, read]
  exact ⟨fun h => hrequest (Except.ok.inj h), fun h => absurd (Except.ok.inj h) hdata⟩

theorem Moves.of_isReply (move : Moves line moved next) {m : Outbound} (hm : m ∈ sentOf moved)
    (hreply : m.isReply = true) :
    sentOf moved = [m] ∧ ∃ body, moved = .received body :: eventsOf (line.pump.receiveFrame body) ∧
      m ∈ (line.pump.receiveFrame body).sent := by
  cases move with
  | take octets rest =>
      rw [sentOf_eventsOf] at hm
      obtain rfl := List.mem_singleton.1 hm
      simp at hreply
  | finish =>
      rw [sentOf_eventsOf] at hm
      rcases List.mem_cons.1 hm with rfl | hm
      · simp at hreply
      · split at hm
        · rw [Pump.not_isReply_of_mem_closing hm] at hreply
          cases hreply
        · simp at hm
  | receive body =>
      rw [sentOf_cons, sentOf_eventsOf] at hm ⊢
      exact ⟨(Pump.receiveFrame_of_isReply hm hreply).1, body, rfl, hm⟩
  | _ => simp at hm

/-- Once the channel has been closed, no frame is replied to but those that are answered. -/
theorem Runs.not_isReply_of_closed (run : Runs c events (.ok line)) {body : Bytes}
    (closed : .close c.id ∈ sentOf events) (unanswered : Unanswered events body) {m : Outbound}
    (hm : m ∈ (line.pump.receiveFrame body).sent) : m.isReply = false := by
  refine Bool.eq_false_iff.2 fun hreply => ?_
  rcases (Pump.receiveFrame_of_isReply hm hreply).2 with hrequest | ⟨payload, hread, htakes, hhalf⟩
  · exact unanswered.1 hrequest
  · -- The channel is closed only once the master has told its end, so its data is empty.
    have hclosed := run.closeSent_iff.2 closed
    have hremote : line.pump.remoteEof = true := by
      rw [run.halfCloses.closed, Bool.and_eq_true] at hclosed
      exact hclosed.2
    obtain rfl : payload = [] := by simpa [Pump.pipeTakes, hremote] using htakes
    have howed := unanswered.2 hread
    rw [← run.counted.consumed_eq] at howed
    have hhalf' : localWindow / 2 ≤ line.pump.consumed := by simpa using hhalf
    exact UInt32.not_le.2 howed hhalf'

theorem Runs.silent (run : Runs c events next)
    (unanswered : ∀ before body after, events = before ++ .received body :: after →
      .close c.id ∈ sentOf before → Unanswered before body) :
    Silent c (sentOf events) := by
  induction run with
  | opened => exact .nil
  | move run move ih =>
      rw [sentOf_append]
      refine List.pairwise_append.2 ⟨ih ?_, ?_, ?_⟩
      · rintro before body after rfl closed
        exact unanswered before body _ (by rw [List.append_assoc, List.cons_append]) closed
      · exact silent_of_singleton fun m hm hreply => (move.of_isReply hm hreply).1
      · rintro _ closed m' hm' rfl
        refine Bool.eq_false_iff.2 fun hreply => ?_
        obtain ⟨-, body, rfl, hsent⟩ := move.of_isReply hm' hreply
        exact Bool.eq_false_iff.1
          (run.not_isReply_of_closed closed (unanswered _ body _ rfl closed) hsent) hreply

/-- Once the channel has been closed, neither is a window given back on it nor a request refused, if
and only if the master asks no reply to a request from then on, and sends no empty data while half
of the window waits to be given back. -/
theorem Runs.silent_iff (run : Runs c events next) :
    (∀ before after, sentOf events = before ++ .close c.id :: after →
      (∀ amount, .windowAdjust c.id amount ∉ after) ∧ .channelFailure c.id ∉ after) ↔
    ∀ before body after, events = before ++ .received body :: after →
      .close c.id ∈ sentOf before → Unanswered before body := by
  constructor
  · intro silent before body after hevents closed
    obtain ⟨line, rest, run', rfl⟩ := run.of_received hevents
    obtain ⟨sent, sent', hsent⟩ := List.append_of_mem closed
    have hall : sentOf events = sent ++ .close c.id ::
        (sent' ++ ((line.pump.receiveFrame body).sent ++ sentOf rest)) := by
      simp [hevents, hsent]
    obtain ⟨hadjust, hfailure⟩ := silent _ _ hall
    constructor
    · intro read
      apply hfailure
      rw [line.pump.receiveFrame_of_request read, run'.serves.1]
      simp
    · intro read
      refine UInt32.not_le.1 fun half => ?_
      rw [← run'.counted.consumed_eq] at half
      apply hadjust line.pump.consumed
      rw [Pump.receiveFrame_of_empty read half, run'.serves.1]
      simp
  · intro unanswered before after hsent
    have hsilent := run.silent unanswered
    rw [hsent] at hsilent
    exact ⟨fun amount hm => by simpa using hsilent.of_append hm,
      fun hm => by simpa using hsilent.of_append hm⟩

/-- After the closing a request that belongs to no channel is still refused, off the channel. -/
theorem silent_after_global_request :
    ∃ events, Runs ⟨7, 65536, 32768⟩ events (.error .closed) ∧
      framesOf events = [[96, 0, 0, 0, 0], [80, 0, 0, 0, 0, 1], [97, 0, 0, 0, 0]] ∧
      sentOf events = [.eof 7, .close 7, .requestFailure] ∧
      ∀ before after, sentOf events = before ++ .close 7 :: after →
        (∀ amount, .windowAdjust 7 amount ∉ after) ∧ .channelFailure 7 ∉ after := by
  have start := Runs.opened (c := ⟨7, 65536, 32768⟩)
  have done := start.move .shutdown
  have finished := done.move (.finish rfl rfl rfl)
  have told := finished.move (.receive [96, 0, 0, 0, 0])
  have requested := told.move (.receive [80, 0, 0, 0, 0, 1])
  have closed := requested.move (.receive [97, 0, 0, 0, 0])
  refine ⟨_, closed, rfl, rfl, closed.silent_iff.2 ?_⟩
  intro before body after hevents _
  have hbody : body ∈ framesOf (before ++ .received body :: after) := by simp
  rw [← hevents] at hbody
  have hframes : body ∈ [[96, 0, 0, 0, 0], [80, 0, 0, 0, 0, 1], [97, 0, 0, 0, 0]] := hbody
  simp only [List.mem_cons, List.not_mem_nil, or_false] at hframes
  rcases hframes with rfl | rfl | rfl
  · exact unanswered_of_read (m := .eof) rfl (by decide) (by decide)
  · exact unanswered_of_read (m := .globalRequest true) rfl (by decide) (by decide)
  · exact unanswered_of_read (m := .close) rfl (by decide) (by decide)

/-- A request for `keepalive@openssh.com` that asks for a reply. -/
def keepalive : Bytes :=
  [98, 0, 0, 0, 0, 0, 0, 0, 21, 107, 101, 101, 112, 97, 108, 105, 118, 101, 64, 111, 112, 101, 110,
    115, 115, 104, 46, 99, 111, 109, 1]

/-- A request that crosses the closing is refused after it, and after the closing a window is given
back. -/
theorem replies_after_closing :
    (∃ events line, Runs ⟨7, 65536, 32768⟩ events (.ok line) ∧
      framesOf events = [[96, 0, 0, 0, 0], keepalive] ∧
      sentOf events = [.eof 7, .close 7, .channelFailure 7]) ∧
    ∃ payload events line, payload.length = 1048576 ∧
      Runs ⟨7, 65536, 32768⟩ events (.ok line) ∧
      readOf events = [.extendedData payload, .eof, .data []] ∧
      sentOf events = [.eof 7, .close 7, .windowAdjust 7 1048576] := by
  have start := Runs.opened (c := ⟨7, 65536, 32768⟩)
  constructor
  · have done := start.move .shutdown
    have finished := done.move (.finish rfl rfl rfl)
    have told := finished.move (.receive [96, 0, 0, 0, 0])
    exact ⟨_, _, told.move (.receive keepalive), rfl, rfl⟩
  · obtain ⟨payload, body, hlength, hread⟩ :=
      exists_extendedData (by decide : 1048576 < 2 ^ 32)
    have hstep : (Pump.ofChannel ⟨7, 65536, 32768⟩).receiveFrame body =
        { next := .ok { Pump.ofChannel ⟨7, 65536, 32768⟩ with consumed := 1048576 } } := by
      simp [Pump.receiveFrame, hread, Pump.receive, hlength]
      rfl
    have extended := start.move (.receive body)
    simp only [hstep] at extended
    have done := extended.move .shutdown
    have finished := done.move (.finish rfl rfl rfl)
    have told := finished.move (.receive [96, 0, 0, 0, 0])
    have granted := told.move (.receive [94, 0, 0, 0, 0, 0, 0, 0, 0])
    refine ⟨payload, _, _, hlength, granted, ?_, rfl⟩
    have heof : Inbound.ofFrame [96, 0, 0, 0, 0] = .ok .eof := rfl
    have hdata : Inbound.ofFrame [94, 0, 0, 0, 0, 0, 0, 0, 0] = .ok (.data []) := rfl
    simp [readOf, hread, heof, hdata, Except.toOption]

end Line

end SshTunnel.Mux
