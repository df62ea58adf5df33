import SshTunnel.Proofs.Mux.Steps

/-!
# How a channel is closed

Each side of a channel ends on its own, and the channel is closed when both have ended. `Told` says
what the flags of a pump tell about the messages it has sent. Every move keeps it up until the pump
ends, and `Ended` is what it comes to then.
-/

namespace SshTunnel.Mux.Line

def Ordered (messages : List Outbound) : Prop :=
  messages.Pairwise fun m m' => m.isEof = true ∨ m.isClose = true → m'.isData = false

theorem Ordered.append {messages messages' : List Outbound} (h : Ordered messages)
    (hno : ∀ m ∈ messages', m.isData = false) : Ordered (messages ++ messages') := by
  refine List.pairwise_append.2 ⟨h, ?_, fun _ _ m' hm' _ => hno m' hm'⟩
  exact List.pairwise_of_forall_mem_list fun _ _ m' hm' _ => hno m' hm'

theorem Ordered.not_data_of_append {before after : List Outbound} {m m' : Outbound}
    (h : Ordered (before ++ m :: after)) (hm : m.isEof = true ∨ m.isClose = true)
    (hm' : m' ∈ after) : m'.isData = false :=
  (List.pairwise_cons.1 (List.pairwise_append.1 h).2.1).1 m' hm' hm

/-- What the flags of a pump that is at work tell about the messages it has sent. -/
structure Told (messages : List Outbound) (p : Pump) : Prop where
  eofs : messages.countP Outbound.isEof = p.localEof.toNat
  closes : messages.countP Outbound.isClose = p.closeSent.toNat
  closed : p.closeSent = (p.localEof && p.remoteEof)
  ordered : Ordered messages

/-- What the messages of a pump come to when it ends. -/
structure Ended (messages : List Outbound) (ending : Ending) : Prop where
  eofs : messages.countP Outbound.isEof ≤ 1
  closes : messages.countP Outbound.isClose ≤ 1
  closed : ending = .closed ∨ ending = .pipeClosed → messages.countP Outbound.isClose = 1
  ordered : Ordered messages

section Messages

variable {messages : List Outbound} {p : Pump}

theorem told_ofChannel (c : RemoteChannel) : Told [] (.ofChannel c) :=
  ⟨rfl, rfl, rfl, .nil⟩

theorem Told.drop (h : Told messages p) : Told messages { p with nearGone := true } :=
  ⟨h.eofs, h.closes, h.closed, h.ordered⟩

/-- As long as the pump takes octets, it has sent no end. -/
theorem Told.not_end (h : Told messages p) (heof : p.localEof = false) {m : Outbound}
    (hm : m ∈ messages) : ¬(m.isEof = true ∨ m.isClose = true) := by
  have heofs : messages.countP Outbound.isEof = 0 := by simp [h.eofs, heof]
  have hcloses : messages.countP Outbound.isClose = 0 := by simp [h.closes, h.closed, heof]
  rintro (hm' | hm')
  · exact List.countP_eq_zero.1 heofs m hm hm'
  · exact List.countP_eq_zero.1 hcloses m hm hm'

theorem Told.takeLocal (h : Told messages p) (hlooks : p.looksAtPipe = true) (octets : Bytes) :
    Told (messages ++ (p.takeLocal octets).sent)
      { p with window := p.window - octets.length.toUInt64 } where
  eofs := by simpa [Pump.takeLocal] using h.eofs
  closes := by simpa [Pump.takeLocal] using h.closes
  closed := h.closed
  ordered := by
    have heof := (Pump.looksAtPipe_eq_true_iff.1 hlooks).2
    refine List.pairwise_append.2 ⟨h.ordered, List.pairwise_singleton _ _, ?_⟩
    intro m hm _ _ hend
    exact absurd hend (h.not_end heof hm)

theorem Told.endLocal (h : Told messages p) (hlooks : p.looksAtPipe = true) :
    Told (messages ++ p.endLocal.sent)
      { p with localEof := true, closeSent := p.closeSent || p.remoteEof } := by
  have heof := (Pump.looksAtPipe_eq_true_iff.1 hlooks).2
  have hclose : p.closeSent = false := by simp [h.closed, heof]
  have heofs : messages.countP Outbound.isEof = 0 := by simp [h.eofs, heof]
  have hcloses : messages.countP Outbound.isClose = 0 := by simp [h.closes, hclose]
  constructor
  case ordered =>
    refine h.ordered.append ?_
    cases hremote : p.remoteEof <;> simp [Pump.endLocal, Pump.closing, hremote, hclose]
  all_goals cases hremote : p.remoteEof <;>
    simp [Pump.endLocal, List.countP_cons, hremote, heofs, hcloses, hclose]

theorem Told.handles {m : Inbound} {step : Step} {p' : Pump} (h : Told messages p)
    (hhandles : p.Handles m step p') : Told (messages ++ step.sent) p' := by
  have heofs : step.sent.countP Outbound.isEof = 0 :=
    List.countP_eq_zero.2 fun answer ha =>
      Bool.eq_false_iff.1 (hhandles.answers answer ha).not_isEof
  constructor
  case eofs => rw [List.countP_append, heofs, h.eofs, hhandles.localEof, Nat.add_zero]
  case closes =>
    -- The closing is sent with the second of the two ends, and only if it has not been sent.
    rw [List.countP_append, h.closes, hhandles.closes, hhandles.closeSent]
    cases p.closeSent <;> cases m.isEof && p.localEof <;> rfl
  case closed =>
    rw [hhandles.closeSent, hhandles.localEof, hhandles.remoteEof, h.closed]
    cases p.localEof <;> cases p.remoteEof <;> cases m.isEof <;> rfl
  case ordered => exact h.ordered.append fun answer ha => (hhandles.answers answer ha).not_isData

theorem Told.ended (h : Told messages p) (ending : Ending) :
    Ended (messages ++ p.closing) ending where
  eofs := by simpa [h.eofs] using Bool.toNat_le _
  closes := by simp [h.closes]; cases p.closeSent <;> decide
  closed _ := by simp [h.closes]; cases p.closeSent <;> decide
  ordered := h.ordered.append fun _ hm => (Pump.answers_of_mem_closing hm).not_isData

theorem Told.broken (h : Told messages p) {ending : Ending}
    (hending : ending ≠ .closed ∧ ending ≠ .pipeClosed) : Ended messages ending where
  eofs := h.eofs ▸ Bool.toNat_le _
  closes := h.closes ▸ Bool.toNat_le _
  closed := by simp [hending]
  ordered := h.ordered

end Messages

/-- What a line, or the ending of its pump, tells about the messages that have been sent. -/
def HalfCloses (messages : List Outbound) : Except Ending Line → Prop
  | .ok line => Told messages line.pump
  | .error ending => Ended messages ending

@[simp] theorem halfCloses_ok (messages : List Outbound) (line : Line) :
    HalfCloses messages (.ok line) ↔ Told messages line.pump := Iff.rfl

@[simp] theorem halfCloses_error (messages : List Outbound) (ending : Ending) :
    HalfCloses messages (.error ending) ↔ Ended messages ending := Iff.rfl

theorem Moves.halfCloses {line : Line} {moved : List Event} {next : Except Ending Line}
    (move : Moves line moved next) {messages : List Outbound} (h : Told messages line.pump) :
    HalfCloses (messages ++ sentOf moved) next := by
  cases move with
  | write => simpa using h
  | shutdown => simpa using h
  | drop => simpa using h.drop
  | take octets rest looks =>
      rw [sentOf_eventsOf]
      exact h.takeLocal looks octets
  | finish looks =>
      rw [sentOf_eventsOf]
      exact h.endLocal looks
  | receive body =>
      have houtcome := line.pump.receiveFrame_outcome body
      generalize line.pump.receiveFrame body = step at houtcome ⊢
      cases houtcome with
      | malformed unread => simpa using h.broken (by simp)
      | ended read ends => simpa using h.ended _
      | handled read handles => simpa [after_of_ok handles.next] using h.handles handles
  | disconnect | breakOff => simpa using h.broken (by simp)

variable {c : RemoteChannel} {events : List Event} {next : Except Ending Line}

theorem Runs.halfCloses (run : Runs c events next) : HalfCloses (sentOf events) next := by
  induction run with
  | opened => exact told_ofChannel c
  | move run move ih =>
      rw [sentOf_append]
      exact move.halfCloses ih

theorem HalfCloses.ended {messages : List Outbound} (h : HalfCloses messages next) :
    messages.countP Outbound.isEof ≤ 1 ∧ messages.countP Outbound.isClose ≤ 1 ∧
      Ordered messages := by
  cases next with
  | ok line => exact ⟨h.eofs ▸ Bool.toNat_le _, h.closes ▸ Bool.toNat_le _, h.ordered⟩
  | error ending => exact ⟨h.eofs, h.closes, h.ordered⟩

/-- An end of data and the closing are each sent at most once, and no data after either of them.
When both sides have ended, the closing has been sent, and it has been sent exactly once when the
pump ends because the master closes the channel or the pipe takes no octets. -/
theorem Runs.closes_once (run : Runs c events next) :
    (sentOf events).countP Outbound.isEof ≤ 1 ∧ (sentOf events).countP Outbound.isClose ≤ 1 ∧
      (∀ before m after, sentOf events = before ++ m :: after →
        m.isEof = true ∨ m.isClose = true → ∀ m' ∈ after, m'.isData = false) ∧
      (∀ line, next = .ok line → line.pump.localEof = true → line.pump.remoteEof = true →
        (sentOf events).countP Outbound.isClose = 1) ∧
      (next = .error .closed ∨ next = .error .pipeClosed →
        (sentOf events).countP Outbound.isClose = 1) := by
  have h := run.halfCloses
  obtain ⟨heofs, hcloses, hordered⟩ := h.ended
  refine ⟨heofs, hcloses, ?_, ?_, ?_⟩
  · intro before m after hsent hm m' hm'
    rw [hsent] at hordered
    exact hordered.not_data_of_append hm hm'
  · rintro line rfl hlocal hremote
    simp [h.closes, h.closed, hlocal, hremote]
  · rintro (rfl | rfl)
    · exact h.closed (.inl rfl)
    · exact h.closed (.inr rfl)

theorem closes_once_of_repeated_end :
    ∃ events, Runs ⟨7, 100, 32768⟩ events (.error .closed) ∧
      framesOf events = [[96, 0, 0, 0, 0], [96, 0, 0, 0, 0], [97, 0, 0, 0, 0]] ∧
      sentOf events = [.data 7 [65], .data 7 [66], .eof 7, .close 7] ∧
      (sentOf events).countP Outbound.isClose = 1 := by
  have start := Runs.opened (c := ⟨7, 100, 32768⟩)
  have written := start.move (.write [65, 66] rfl)
  have first := written.move (.take [65] [66] rfl rfl (by decide) (by decide))
  have ended := first.move (.receive [96, 0, 0, 0, 0])
  have done := ended.move .shutdown
  have second := done.move (.take [66] [] rfl rfl (by decide) (by decide))
  have finished := second.move (.finish rfl rfl rfl)
  have again := finished.move (.receive [96, 0, 0, 0, 0])
  have closed := again.move (.receive [97, 0, 0, 0, 0])
  exact ⟨_, closed, rfl, rfl, closed.closes_once.2.2.2.2 (.inl rfl)⟩

end SshTunnel.Mux.Line
