import SshTunnel.Proofs.Mux.HalfClose
import SshTunnel.Proofs.Mux.Upload

/-!
# What a line remembers

A line keeps flags in place of what has happened at it. Each flag is set just if its event belongs
to the run: the caller writes nothing more (`Runs.nearDone_iff`), the end of its data has been sent
(`Runs.localEof_iff`), the channel has been closed (`Runs.closeSent_iff`), the master has told the
end of its data (`Runs.remoteEof_iff`). A run can be taken apart before every frame that it takes up
(`Runs.of_received`).
-/

namespace SshTunnel.Mux

@[simp] def Outbound.channel? : Outbound → Option UInt32
  | data channel _ | windowAdjust channel _ | eof channel | close channel
  | channelFailure channel => some channel
  | hello | proxy | channelOpen _ | requestFailure => none

theorem Pump.Answers.addressed {p : Pump} {m : Outbound} (h : p.Answers m) :
    m.channel? = some p.channel ∨ m = .requestFailure := by
  cases h with
  | requestFailure => exact .inr rfl
  | _ => exact .inl rfl

namespace Line

variable {c : RemoteChannel} {events moved : List Event} {line line' : Line}
  {next : Except Ending Line}

/-! ## The messages of a run -/

theorem Moves.addressed (move : Moves line moved next) {m : Outbound} (hm : m ∈ sentOf moved) :
    m.channel? = some line.pump.channel ∨ m = .requestFailure := by
  cases move with
  | take octets rest looks front nonempty fits =>
      rw [sentOf_eventsOf] at hm
      exact .inl (by rw [List.mem_singleton.1 hm]; rfl)
  | finish looks =>
      rw [sentOf_eventsOf] at hm
      rcases Pump.eof_or_answers_of_mem_endLocal hm with rfl | hanswers
      · exact .inl rfl
      · exact hanswers.addressed
  | receive body => exact (answers_of_mem_sentOf hm).addressed
  | _ => simp at hm

theorem Runs.addressed (run : Runs c events next) {m : Outbound} (hm : m ∈ sentOf events) :
    m.channel? = some c.id ∨ m = .requestFailure := by
  obtain ⟨before, line, moved, next', run', move, hm⟩ := run.move_of_mem_sentOf hm
  rw [← run'.serves.1]
  exact move.addressed hm

/-- A kind of message that comes in one form on a channel is sent just if that form is. -/
theorem Runs.exists_iff_mem (run : Runs c events next) {kind : Outbound → Bool} {m : Outbound}
    (hkind : kind m = true)
    (only : ∀ m', m'.channel? = some c.id ∨ m' = .requestFailure → kind m' = true → m' = m) :
    (∃ m' ∈ sentOf events, kind m' = true) ↔ m ∈ sentOf events := by
  constructor
  · rintro ⟨m', hm', hkind'⟩
    obtain rfl := only m' (run.addressed hm') hkind'
    exact hm'
  · intro hm
    exact ⟨m, hm, hkind⟩

theorem Runs.exists_isEof_iff (run : Runs c events next) :
    (∃ m ∈ sentOf events, m.isEof = true) ↔ .eof c.id ∈ sentOf events := by
  refine run.exists_iff_mem rfl fun m haddressed heof => ?_
  cases m with
  | eof channel => simpa using haddressed
  | _ => simp at heof

theorem Runs.exists_isClose_iff (run : Runs c events next) :
    (∃ m ∈ sentOf events, m.isClose = true) ↔ .close c.id ∈ sentOf events := by
  refine run.exists_iff_mem rfl fun m haddressed hclose => ?_
  cases m with
  | close channel => simpa using haddressed
  | _ => simp at hclose

/-! ## The flags -/

/-- The flags that messages of the pump do not show. -/
structure Remembers (events : List Event) (line : Line) : Prop where
  nearDone : line.nearDone = true ↔ .shutdown ∈ events ∨ .dropped ∈ events
  remoteEof : line.pump.remoteEof = true ↔ .eof ∈ readOf events

theorem Moves.remembers (move : Moves line moved next) (hnext : next = .ok line')
    (h : Remembers events line) : Remembers (events ++ moved) line' := by
  cases move with
  | write octets | shutdown | drop =>
      obtain rfl := Except.ok.inj hnext
      exact ⟨by simp [h.nearDone], by simp [h.remoteEof]⟩
  | take octets rest | finish =>
      obtain rfl := Except.ok.inj hnext
      exact ⟨by simp [h.nearDone, eventsOf], by simp [h.remoteEof]⟩
  | receive body =>
      obtain ⟨m, p', read, handles, rfl⟩ := handles_of_after hnext
      refine ⟨by simp [h.nearDone, eventsOf], ?_⟩
      rw [readOf_append, readOf_received _ read]
      change p'.remoteEof = true ↔ _
      rw [handles.remoteEof, Bool.or_eq_true, h.remoteEof]
      cases m <;> simp
  | disconnect | breakOff => cases hnext

theorem Runs.remembers (run : Runs c events (.ok line)) : Remembers events line := by
  generalize hnext : Except.ok line = next at run
  induction run generalizing line with
  | opened =>
      obtain rfl := Except.ok.inj hnext
      exact ⟨by simp, by simp [Pump.ofChannel]⟩
  | move run move ih => exact move.remembers hnext.symm (ih rfl)

theorem Runs.nearDone_iff (run : Runs c events (.ok line)) :
    line.nearDone = true ↔ .shutdown ∈ events ∨ .dropped ∈ events :=
  run.remembers.nearDone

theorem Runs.remoteEof_iff (run : Runs c events (.ok line)) :
    line.pump.remoteEof = true ↔ .eof ∈ readOf events :=
  run.remembers.remoteEof

theorem toNat_pos_iff {b : Bool} : 0 < b.toNat ↔ b = true := by
  cases b <;> decide

theorem Runs.localEof_iff (run : Runs c events (.ok line)) :
    line.pump.localEof = true ↔ .eof c.id ∈ sentOf events := by
  rw [← run.exists_isEof_iff, ← List.countP_pos_iff, run.halfCloses.eofs, toNat_pos_iff]

theorem Runs.closeSent_iff (run : Runs c events (.ok line)) :
    line.pump.closeSent = true ↔ .close c.id ∈ sentOf events := by
  rw [← run.exists_isClose_iff, ← List.countP_pos_iff, run.halfCloses.closes, toNat_pos_iff]

/-! ## Runs before a frame -/

theorem Moves.of_received {before after : List Event} {body : Bytes}
    (move : Moves line (before ++ .received body :: after) next) :
    before = [] ∧ after = eventsOf (line.pump.receiveFrame body) := by
  generalize hmoved : before ++ .received body :: after = moved at move
  have hframes : framesOf moved ≠ [] := by simp [← hmoved]
  cases move with
  | receive body' =>
      cases before with
      | nil =>
          obtain ⟨hbody, rfl⟩ := List.cons.inj hmoved
          obtain rfl := Event.received.inj hbody
          exact ⟨rfl, rfl⟩
      | cons e before =>
          obtain ⟨rfl, hafter⟩ := List.cons.inj hmoved
          have hnone := congrArg framesOf hafter
          simp at hnone
  | _ => simp at hframes

/-- Before a frame is taken up, the run has come to a line, whose pump handles the frame. -/
theorem Runs.of_received (run : Runs c events next) {before after : List Event} {body : Bytes}
    (hevents : events = before ++ .received body :: after) :
    ∃ line rest, Runs c before (.ok line) ∧
      after = eventsOf (line.pump.receiveFrame body) ++ rest := by
  induction run generalizing after with
  | opened => simp at hevents
  | @move events moved line next run move ih =>
      rcases List.append_eq_append_iff.1 hevents with ⟨front, rfl, hmoved⟩ | ⟨front, rfl, hfront⟩
      · obtain ⟨rfl, rfl⟩ := (hmoved ▸ move).of_received
        exact ⟨line, [], by simpa using run, by simp⟩
      · cases front with
        | nil =>
            obtain ⟨-, rfl⟩ := (show Moves line ([] ++ .received body :: after) next from
              hfront ▸ move).of_received
            exact ⟨line, [], by simpa using run, by simp⟩
        | cons e front =>
            obtain ⟨rfl, rfl⟩ := List.cons.inj hfront
            obtain ⟨line', rest, run', rfl⟩ := ih rfl
            exact ⟨line', rest ++ moved, run', by simp⟩

end Line

end SshTunnel.Mux
