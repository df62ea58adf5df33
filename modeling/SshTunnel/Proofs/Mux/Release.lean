import SshTunnel.Proofs.Mux.EndOfInput

/-!
# Giving up a channel

A caller that gives up its end of the pipe looks to the pump like one that only writes nothing
more. So the pump tells the end of the data, and closes the channel just if the master has told its
end too, closes the channel itself, or sends data that nobody takes (`Runs.releases_iff`). Until
then the pump waits for the master, with the channel still open.
-/

namespace SshTunnel.Mux.Line

variable {c : RemoteChannel} {events moved : List Event} {line : Line}
  {next : Except Ending Line}

/-- The endings that close the channel. -/
def Closing (next : Except Ending Line) : Prop :=
  next = .error .closed ∨ next = .error .pipeClosed

/-- While the pump is at work, the channel has been closed just if both sides have ended. -/
theorem Runs.close_mem_iff (run : Runs c events (.ok line)) :
    .close c.id ∈ sentOf events ↔ .eof c.id ∈ sentOf events ∧ .eof ∈ readOf events := by
  rw [← run.closeSent_iff, ← run.localEof_iff, ← run.remoteEof_iff, run.halfCloses.closed,
    Bool.and_eq_true]

/-- A pump that breaks off sends nothing, and the frame on which it does so tells nothing. -/
theorem Moves.nothing_of_broken {ending : Ending} (move : Moves line moved (.error ending))
    (broken : ¬ Closing (.error ending)) : sentOf moved = [] ∧ readOf moved = [] := by
  generalize hnext : Except.error ending = next at move
  cases move with
  | take | finish => cases hnext
  | receive body =>
      have houtcome := line.pump.receiveFrame_outcome body
      generalize line.pump.receiveFrame body = step at houtcome hnext ⊢
      cases houtcome with
      | malformed unread => exact ⟨by simp, by simp [readOf, unread, Except.toOption]⟩
      | ended read ends =>
          rw [after_error] at hnext
          obtain rfl := Except.error.inj hnext
          cases ends with
          | close => exact absurd (.inl rfl) broken
          | refuse => exact absurd (.inr rfl) broken
      | handled read handles =>
          rw [after_of_ok handles.next] at hnext
          cases hnext
  | _ => exact ⟨rfl, rfl⟩

theorem Runs.close_mem_of_closing (run : Runs c events next) (closing : Closing next) :
    .close c.id ∈ sentOf events := by
  rw [← run.exists_isClose_iff, ← List.countP_pos_iff]
  rcases closing with rfl | rfl
  · rw [run.halfCloses.closed (.inl rfl)]
    decide
  · rw [run.halfCloses.closed (.inr rfl)]
    decide

/-- Once the end has been sent, the channel is closed with the end that the master tells, or with
the ending of the pump. -/
theorem Runs.close_mem_iff_of_eof (run : Runs c events next) (told : .eof c.id ∈ sentOf events) :
    .close c.id ∈ sentOf events ↔ .eof ∈ readOf events ∨ Closing next := by
  by_cases closing : Closing next
  · exact iff_of_true (run.close_mem_of_closing closing) (.inr closing)
  · rw [or_iff_left closing]
    cases hnext : next with
    | ok line =>
        subst hnext
        rw [run.close_mem_iff, and_iff_right told]
    | error ending =>
        cases run with
        | opened => cases hnext
        | move run move =>
            subst hnext
            obtain ⟨hsent, hread⟩ := move.nothing_of_broken closing
            rw [sentOf_append, hsent, List.append_nil] at told ⊢
            rw [readOf_append, hread, List.append_nil, run.close_mem_iff, and_iff_right told]

/-- A caller has given up its end of the pipe. When the end of its data has been sent, the channel
has been closed if and only if the master has told its end, or the pump has ended because the master
closes the channel or because the pipe takes no data. The pump waits with the channel open if and
only if the master has not told its end, or the end of the data cannot be sent either. -/
theorem Runs.releases_iff (run : Runs c events next) (dropped : .dropped ∈ events) :
    (.eof c.id ∈ sentOf events →
      (.close c.id ∈ sentOf events ↔
        .eof ∈ readOf events ∨ next = .error .closed ∨ next = .error .pipeClosed)) ∧
    ∀ line, next = .ok line →
      (line.Waits ∧ .close c.id ∉ sentOf events ↔
        (.eof c.id ∈ sentOf events ∧ .eof ∉ readOf events) ∨
          (.eof c.id ∉ sentOf events ∧ (line.pump.window = 0 ∨ c.maxPacket = 0))) := by
  refine ⟨run.close_mem_iff_of_eof, ?_⟩
  rintro line rfl
  rw [waits_iff (run.nearDone_iff.2 (.inr dropped)), run.close_mem_iff]
  by_cases told : .eof c.id ∈ sentOf events
  · have hidle : line.pump.looksAtPipe = false := by
      simp [Pump.looksAtPipe, run.localEof_iff.2 told]
    simp [told, hidle]
  · have hlooks := run.looksAtPipe_iff told
    simp only [told, false_and, not_false_eq_true, and_true, false_or, true_and]
    rw [← Bool.not_eq_true, hlooks, Decidable.not_and_iff_not_or_not, Decidable.not_not,
      Decidable.not_not]

/-- A caller that is gone, and a master that has told its end. -/
theorem released_after_remote_end :
    ∃ events line, Runs ⟨7, 65536, 32768⟩ events (.ok line) ∧ .dropped ∈ events ∧
      framesOf events = [[96, 0, 0, 0, 0]] ∧ .eof 7 ∈ sentOf events ∧
      .close 7 ∈ sentOf events := by
  have start := Runs.opened (c := ⟨7, 65536, 32768⟩)
  have told := start.move (.receive [96, 0, 0, 0, 0])
  have dropped := told.move .drop
  have finished := dropped.move (.finish rfl rfl rfl)
  refine ⟨_, _, finished, by decide, rfl, by decide, ?_⟩
  exact ((finished.releases_iff (by decide)).1 (by decide)).2 (.inl (by decide))

/-- A caller that is gone, and a master that says nothing: the channel stays open. -/
theorem unreleased_while_silent :
    ∃ events line, Runs ⟨7, 65536, 32768⟩ events (.ok line) ∧ .dropped ∈ events ∧
      framesOf events = [] ∧ sentOf events = [.eof 7] ∧ line.Waits ∧
      .close 7 ∉ sentOf events := by
  have start := Runs.opened (c := ⟨7, 65536, 32768⟩)
  have dropped := start.move .drop
  have finished := dropped.move (.finish rfl rfl rfl)
  exact ⟨_, _, finished, by decide, rfl, rfl, (waits_iff rfl).2 rfl, by decide⟩

end SshTunnel.Mux.Line
