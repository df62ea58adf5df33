import SshTunnel.Proofs.Mux.Steps

/-!
# Data on its way to the master

What a line sends is data of its channel, in pieces that the limit allows (`Runs.data`). What has
been sent and what still waits in the pipe make up what the caller has written, and nothing waits
once the end has been sent (`Runs.uploads`).
-/

namespace SshTunnel.Mux.Line

def uploadedOf (events : List Event) : Bytes :=
  (sentOf events).flatMap Outbound.payload

@[simp] theorem uploadedOf_append (events events' : List Event) :
    uploadedOf (events ++ events') = uploadedOf events ++ uploadedOf events' := by
  simp [uploadedOf]

variable {c : RemoteChannel} {events moved : List Event} {line : Line}
  {next : Except Ending Line}

/-! ## Single messages -/

def Serves (c : RemoteChannel) : Except Ending Line → Prop
  | .ok line => line.pump.channel = c.id ∧ line.pump.maxPacket = c.maxPacket
  | .error _ => True

theorem Moves.serves (move : Moves line moved next) (h : Serves c (.ok line)) : Serves c next := by
  cases move with
  | receive body =>
      have houtcome := line.pump.receiveFrame_outcome body
      generalize line.pump.receiveFrame body = step at houtcome ⊢
      cases houtcome with
      | malformed unread => trivial
      | ended read ends => trivial
      | handled read handles =>
          rw [after_of_ok handles.next]
          exact ⟨handles.channel.trans h.1, handles.maxPacket.trans h.2⟩
  | disconnect => trivial
  | breakOff fault => trivial
  | _ => exact h

theorem Runs.serves (run : Runs c events next) : Serves c next := by
  induction run with
  | opened => exact ⟨rfl, rfl⟩
  | move run move ih => exact move.serves ih

theorem Moves.data (move : Moves line moved next) {m : Outbound} (hm : m ∈ sentOf moved)
    (hdata : m.isData = true) :
    ∃ octets, m = .data line.pump.channel octets ∧ octets ≠ [] ∧
      octets.length ≤ line.pump.limit := by
  cases move with
  | take octets rest looks front nonempty fits =>
      rw [sentOf_eventsOf] at hm
      exact ⟨octets, List.mem_singleton.1 hm, nonempty, fits⟩
  | finish looks =>
      rw [sentOf_eventsOf] at hm
      rcases Pump.eof_or_answers_of_mem_endLocal hm with rfl | hanswers
      · simp at hdata
      · exact absurd hdata (Bool.eq_false_iff.1 hanswers.not_isData)
  | receive body =>
      exact absurd hdata (Bool.eq_false_iff.1 (answers_of_mem_sentOf hm).not_isData)
  | _ => simp at hm

theorem Runs.data (run : Runs c events next) {m : Outbound} (hm : m ∈ sentOf events)
    (hdata : m.isData = true) :
    ∃ octets, m = .data c.id octets ∧ octets ≠ [] ∧
      octets.length ≤ min 32768 c.maxPacket.toNat := by
  obtain ⟨before, line, moved, next', run', move, hm⟩ := run.move_of_mem_sentOf hm
  obtain ⟨hchannel, hmax⟩ := run'.serves
  obtain ⟨octets, rfl, hnonempty, hfits⟩ := move.data hm hdata
  refine ⟨octets, by rw [hchannel], hnonempty, ?_⟩
  rw [← hmax]
  exact Nat.le_trans hfits line.pump.limit_le

/-! ## The data as a whole -/

/-- What has been sent and what waits in the pipe make up what the caller has written. -/
structure Uploading (events : List Event) (line : Line) : Prop where
  balance : uploadedOf events ++ line.pending = writtenOf events
  taken : line.pump.localEof = true → line.pending = []
  done : line.pump.localEof = true → line.nearDone = true
  told : ∀ channel, .eof channel ∈ sentOf events → line.pump.localEof = true

/-- What has been sent is all that the caller has written, or the front of it. -/
def Uploads (events : List Event) : Except Ending Line → Prop
  | .ok line => Uploading events line
  | .error _ => uploadedOf events <+: writtenOf events ∧
      ∀ channel, .eof channel ∈ sentOf events → uploadedOf events = writtenOf events

theorem Uploading.uploaded_le (h : Uploading events line) :
    uploadedOf events <+: writtenOf events :=
  ⟨line.pending, h.balance⟩

theorem Uploading.all_of_eof (h : Uploading events line) {channel : UInt32}
    (heof : .eof channel ∈ sentOf events) : uploadedOf events = writtenOf events := by
  rw [← h.balance, h.taken (h.told channel heof), List.append_nil]

theorem uploadedOf_of_answers {p : Pump} (hno : ∀ m ∈ sentOf moved, p.Answers m) :
    uploadedOf moved = [] :=
  List.flatMap_eq_nil_iff.2 fun m hm => (hno m hm).payload_eq_nil

theorem uploadedOf_endLocal (p : Pump) : uploadedOf (eventsOf p.endLocal) = [] := by
  cases hremote : p.remoteEof <;> simp [uploadedOf, Pump.endLocal, Pump.closing, hremote]

theorem eof_mem_of_answers {p : Pump} (hno : ∀ m ∈ sentOf moved, p.Answers m) {channel : UInt32}
    (heof : .eof channel ∈ sentOf (events ++ moved)) : .eof channel ∈ sentOf events := by
  rw [sentOf_append] at heof
  rcases List.mem_append.1 heof with heof | heof
  · exact heof
  · cases hno _ heof

theorem Uploading.answered {p p' : Pump} (h : Uploading events line)
    (hwritten : writtenOf moved = []) (hno : ∀ m ∈ sentOf moved, p.Answers m)
    (heof : p'.localEof = line.pump.localEof) :
    Uploading (events ++ moved) { line with pump := p' } where
  balance := by
    rw [uploadedOf_append, uploadedOf_of_answers hno, writtenOf_append, hwritten, List.append_nil,
      List.append_nil]
    exact h.balance
  taken hdone := h.taken (heof ▸ hdone)
  done hdone := h.done (heof ▸ hdone)
  told channel hm := heof.trans (h.told channel (eof_mem_of_answers hno hm))

theorem Uploading.ended {p : Pump} (h : Uploading events line) (hwritten : writtenOf moved = [])
    (hno : ∀ m ∈ sentOf moved, p.Answers m) (ending : Ending) :
    Uploads (events ++ moved) (.error ending) := by
  have hwritten' : writtenOf (events ++ moved) = writtenOf events := by
    rw [writtenOf_append, hwritten, List.append_nil]
  rw [Uploads, uploadedOf_append, uploadedOf_of_answers hno, List.append_nil, hwritten']
  exact ⟨h.uploaded_le, fun channel heof => h.all_of_eof (eof_mem_of_answers hno heof)⟩

theorem Moves.uploads (move : Moves line moved next) (h : Uploading events line) :
    Uploads (events ++ moved) next := by
  cases move with
  | write octets opened =>
      -- The end has not been told, since it is told only once the caller writes nothing more.
      have heof : ¬ line.pump.localEof = true := fun heof => by simp [h.done heof] at opened
      exact { balance := by simp [uploadedOf, ← h.balance],
              taken := fun hdone => absurd hdone heof,
              done := fun hdone => absurd hdone heof, told := by simpa using h.told }
  | shutdown | drop =>
      exact { balance := by simpa [uploadedOf] using h.balance, taken := h.taken,
              done := fun _ => rfl, told := by simpa using h.told }
  | take octets rest looks front nonempty fits =>
      have heof := (Pump.looksAtPipe_eq_true_iff.1 looks).2
      exact { balance := by simp [uploadedOf, ← h.balance, front, Pump.takeLocal],
              taken := fun hdone => by simp [heof] at hdone,
              done := fun hdone => by simp [heof] at hdone,
              told := by simpa [Pump.takeLocal] using h.told }
  | finish looks taken done =>
      exact { balance := by simp [uploadedOf_endLocal, ← h.balance],
              taken := fun _ => taken, done := fun _ => done, told := fun _ _ => rfl }
  | receive body =>
      have hno : ∀ m ∈ sentOf (.received body :: eventsOf (line.pump.receiveFrame body)),
          line.pump.Answers m := fun _ => answers_of_mem_sentOf
      have houtcome := line.pump.receiveFrame_outcome body
      generalize line.pump.receiveFrame body = step at houtcome hno ⊢
      cases houtcome with
      | malformed unread => exact h.ended (by simp) hno _
      | ended read ends => exact h.ended (by simp) hno _
      | handled read handles =>
          rw [after_of_ok handles.next]
          exact h.answered (by simp) hno handles.localEof
  | disconnect => exact h.ended (p := line.pump) (by simp) (by simp) _
  | breakOff fault => exact h.ended (p := line.pump) (by simp) (by simp) _

theorem Runs.uploads (run : Runs c events next) : Uploads events next := by
  induction run with
  | opened =>
      exact { balance := rfl, taken := fun _ => rfl, done := by simp [Pump.ofChannel],
              told := by simp }
  | move run move ih => exact move.uploads ih

theorem Uploads.uploaded_le (h : Uploads events next) : uploadedOf events <+: writtenOf events := by
  cases next with
  | ok line => exact Uploading.uploaded_le h
  | error ending => exact h.1

theorem Uploads.all_of_eof (h : Uploads events next) {channel : UInt32}
    (heof : .eof channel ∈ sentOf events) : uploadedOf events = writtenOf events := by
  cases next with
  | ok line => exact Uploading.all_of_eof h heof
  | error ending => exact h.2 channel heof

end SshTunnel.Mux.Line
