import SshTunnel.Proofs.Mux.Flags
import SshTunnel.Proofs.Mux.Window

/-!
# The end of what the caller writes

The pump looks at its pipe only while it may send data. So once the caller writes nothing more and
all that it has written has been sent, the end of it can be told if and only if the master has
granted more than that (`Runs.finishes_iff`). Else the pump waits for the master.
-/

namespace SshTunnel.Mux

theorem Pump.limit_pos_iff {p : Pump} : 0 < p.limit ↔ p.window ≠ 0 ∧ p.maxPacket ≠ 0 := by
  have hmax : localMaxPacket.toNat = 32768 := rfl
  rw [limit, hmax, ne_eq, ne_eq, ← UInt64.toNat_inj, ← UInt32.toNat_inj]
  change _ ↔ ¬ p.window.toNat = 0 ∧ ¬ p.maxPacket.toNat = 0
  omega

namespace Line

variable {c : RemoteChannel} {events moved : List Event} {line : Line}
  {next : Except Ending Line}

/-- The pump waits for the master: it sends nothing before it takes up a frame. -/
def Waits (line : Line) : Prop :=
  ∀ moved next, Moves line moved next → framesOf moved = [] → sentOf moved = []

/-- The next thing that happens can be that the end of the data is sent on a channel. -/
def Finishes (channel : UInt32) (line : Line) : Prop :=
  ∃ moved next, Moves line moved next ∧ .eof channel ∈ sentOf moved

theorem Moves.sentOf_eq_nil (move : Moves line moved next) (unasked : framesOf moved = [])
    (idle : line.pump.looksAtPipe = false) : sentOf moved = [] := by
  cases move with
  | take octets rest looks => exact absurd looks (Bool.eq_false_iff.1 idle)
  | finish looks => exact absurd looks (Bool.eq_false_iff.1 idle)
  | receive body => simp at unasked
  | _ => rfl

/-- If the caller writes nothing more, the pump waits just while it does not look at the pipe. -/
theorem waits_iff (done : line.nearDone = true) :
    line.Waits ↔ line.pump.looksAtPipe = false := by
  constructor
  · intro waits
    refine Bool.eq_false_iff.2 fun looks => ?_
    by_cases htaken : line.pending = []
    · have hsent := waits _ _ (.finish looks htaken done) (framesOf_eventsOf _)
      simp [Pump.endLocal] at hsent
    · have hlimit := (Pump.looksAtPipe_eq_true_iff.1 looks).1
      have hnonempty : line.pending.take line.pump.limit ≠ [] := by
        rw [ne_eq, List.take_eq_nil_iff, not_or]
        exact ⟨by omega, htaken⟩
      have hsent := waits _ _ (.take _ _ looks (List.take_append_drop _ _).symm hnonempty
        (List.length_take_le _ _)) (framesOf_eventsOf _)
      simp [Pump.takeLocal] at hsent
  · intro idle moved next move unasked
    exact move.sentOf_eq_nil unasked idle

theorem Moves.finishes (move : Moves line moved next) {channel : UInt32}
    (hm : .eof channel ∈ sentOf moved) : line.pump.looksAtPipe = true := by
  cases move with
  | finish looks => exact looks
  | take octets rest looks => exact looks
  | receive body => simpa using (answers_of_mem_sentOf hm).not_isEof
  | _ => simp at hm

theorem finishes_iff_looksAtPipe (taken : line.pending = []) (done : line.nearDone = true) :
    line.Finishes line.pump.channel ↔ line.pump.looksAtPipe = true := by
  constructor
  · rintro ⟨moved, next, move, hm⟩
    exact move.finishes hm
  · intro looks
    exact ⟨_, _, .finish looks taken done, by simp [Pump.endLocal]⟩

theorem Runs.pending_eq_nil (run : Runs c events (.ok line))
    (sent : uploadedOf events = writtenOf events) : line.pending = [] := by
  have hbalance := (show Uploading events line from run.uploads).balance
  rw [sent] at hbalance
  exact List.append_right_eq_self.1 hbalance

/-- As long as the end has not been sent, the pump looks at the pipe if it may send data. -/
theorem Runs.looksAtPipe_iff (run : Runs c events (.ok line))
    (untold : .eof c.id ∉ sentOf events) :
    line.pump.looksAtPipe = true ↔ line.pump.window ≠ 0 ∧ c.maxPacket ≠ 0 := by
  have heof : line.pump.localEof = false :=
    Bool.eq_false_iff.2 fun heof => untold (run.localEof_iff.1 heof)
  rw [Pump.looksAtPipe_eq_true_iff, Pump.limit_pos_iff, heof, run.serves.2]
  simp

/-- When the caller writes nothing more, and all that it has written has been sent, the end of it
can be sent if and only if there is window left and the master takes data at all: it has granted
more than has been written. Otherwise the pump waits for the master. -/
theorem Runs.finishes_iff (run : Runs c events (.ok line))
    (shut : .shutdown ∈ events ∨ .dropped ∈ events)
    (sent : uploadedOf events = writtenOf events) (untold : .eof c.id ∉ sentOf events) :
    (line.Finishes c.id ↔ line.pump.window ≠ 0 ∧ c.maxPacket ≠ 0) ∧
    (c.window.toNat + grantedOf events < 2 ^ 64 →
      (line.Finishes c.id ↔
        (writtenOf events).length < c.window.toNat + grantedOf events ∧ c.maxPacket ≠ 0)) ∧
    (line.Waits ↔ ¬ line.Finishes c.id) := by
  have hdone := run.nearDone_iff.2 shut
  have hlooks := finishes_iff_looksAtPipe (run.pending_eq_nil sent) hdone
  rw [run.serves.1] at hlooks
  have hfinishes := hlooks.trans (run.looksAtPipe_iff untold)
  refine ⟨hfinishes, fun bounded => ?_, ?_⟩
  · have hbalance := run.windowed bounded
    have hwindow : line.pump.window ≠ 0 ↔ 0 < line.pump.window.toNat := by
      rw [ne_eq, ← UInt64.toNat_inj, Nat.pos_iff_ne_zero]
      rfl
    rw [hfinishes, hwindow, ← sent]
    refine and_congr_left fun _ => ?_
    omega
  · rw [waits_iff hdone, hlooks, Bool.not_eq_true]

/-- An octet of window is left for the end, though it takes none. -/
theorem finishes_of_spare_octet :
    ∃ events line, Runs ⟨7, 3, 32768⟩ events (.ok line) ∧ .shutdown ∈ events ∧
      uploadedOf events = writtenOf events ∧ .eof 7 ∉ sentOf events ∧
      sentOf events = [.data 7 [65, 66]] ∧ line.Finishes 7 := by
  have start := Runs.opened (c := ⟨7, 3, 32768⟩)
  have written := start.move (.write [65, 66] rfl)
  have taken := written.move (.take [65, 66] [] rfl rfl (by decide) (by decide))
  have done := taken.move .shutdown
  refine ⟨_, _, done, by decide, rfl, by decide, rfl, ?_⟩
  exact (done.finishes_iff (.inl (by decide)) rfl (by decide)).1.2 ⟨by decide, by decide⟩

/-- When the last octet has used up the window, the end is not sent, and the pump waits for a master
that may be waiting for the end. -/
theorem stalled_without_window :
    ∃ events line, Runs ⟨7, 3, 32768⟩ events (.ok line) ∧ .shutdown ∈ events ∧
      uploadedOf events = writtenOf events ∧ sentOf events = [.data 7 [65, 66, 67]] ∧
      ¬ line.Finishes 7 ∧ line.Waits := by
  have start := Runs.opened (c := ⟨7, 3, 32768⟩)
  have written := start.move (.write [65, 66, 67] rfl)
  have taken := written.move (.take [65, 66, 67] [] rfl rfl (by decide) (by decide))
  have done := taken.move .shutdown
  refine ⟨_, _, done, by decide, rfl, rfl, ?_, (waits_iff rfl).2 rfl⟩
  rintro ⟨moved, next, move, hm⟩
  exact absurd (move.finishes hm) (by decide)

end Line

end SshTunnel.Mux
