import SshTunnel.Connection
import SshTunnel.Proofs.Mux.Opens
import SshTunnel.Proofs.Mux.Steps

/-!
# Sessions as runs

A session of a control connection takes one way through what can happen at a line: whatever the
master and the caller do, once its channel is open, it has a run (`Reached.runs`) with the messages
it has sent since and the octets it has delivered.
-/

namespace SshTunnel.Mux

open Line

namespace Session

/-! ## The line of a session -/

def line (s : Session) (p : Pump) : Line where
  pump := { p with nearGone := s.nearGone }
  pending := s.written
  nearDone := s.nearDone

def outcome? (s : Session) : Option (Except Ending Line) :=
  match s.client with
  | .pumping p => some (.ok (s.line p))
  | .ended ending => some (.error ending)
  | .opening _ | .failed _ => none

structure Adds (s : Session) (moved : List Event) (s' : Session) : Prop where
  sent : s'.sent.reverse = s.sent.reverse ++ sentOf moved
  delivered : s'.delivered.reverse.flatten = s.delivered.reverse.flatten ++ deliveredOf moved

variable {s s' : Session} {p : Pump} {moved : List Event} {step : Step}

theorem Adds.afterStep (hs : s'.sent = s.sent ∧ s'.delivered = s.delivered)
    (hsent : sentOf moved = step.sent) (hdelivered : deliveredOf moved = step.delivered) :
    s.Adds moved (s'.afterStep step) where
  sent := by simp [Session.afterStep, hsent, hs.1]
  delivered := by simp [Session.afterStep, hdelivered, hs.2]

theorem outcome?_afterStep (hgone : ∀ p', step.next = .ok p' → p'.nearGone = s.nearGone) :
    (s.afterStep step).outcome? = some ((s.line p).after step) := by
  cases hnext : step.next with
  | error ending => simp [outcome?, Session.afterStep, after, hnext, Except.map]
  | ok p' => simp [outcome?, Session.afterStep, after, hnext, Except.map, line, ← hgone p' hnext]

def Moved (s : Session) (p : Pump) (s' : Session) : Prop :=
  ∃ moved next, Moves (s.line p) moved next ∧ s.Adds moved s' ∧ s'.outcome? = some next

theorem moved_of_cut {e : Ending} (move : Moves (s.line p) [.cut] (.error e)) :
    s.Moved p { s with client := .ended e } :=
  ⟨_, _, move, ⟨by simp, by simp⟩, rfl⟩

theorem moved_of_stepFrame (hstep : s.stepFrame { p with nearGone := s.nearGone } = some s') :
    s.Moved p s' := by
  rw [stepFrame] at hstep
  split at hstep
  · obtain rfl := Option.some.inj hstep
    exact moved_of_cut (.breakOff _)
  · next body deframer hbody =>
      obtain rfl := Option.some.inj hstep
      exact ⟨_, _, .receive body, .afterStep ⟨rfl, rfl⟩ (by simp [line]) (by simp [line]),
        outcome?_afterStep fun p' h => Pump.nearGone_of_receiveFrame h⟩
  · split at hstep
    · obtain rfl := Option.some.inj hstep
      rw [ending]
      split
      · exact moved_of_cut .disconnect
      · exact moved_of_cut (.breakOff _)
    · cases hstep

theorem moved_of_stepPump (hstep : s.stepPump p = some s') : s.Moved p s' := by
  rw [stepPump] at hstep
  split at hstep
  · next hwritten =>
      obtain ⟨hlooks, hwritten⟩ := Bool.and_eq_true_iff.1 hwritten
      have hlimit := (Pump.looksAtPipe_eq_true_iff.1 hlooks).1
      have hnonempty : s.written.take p.limit ≠ [] := by
        rw [ne_eq, List.take_eq_nil_iff, not_or]
        exact ⟨by omega, by simpa using hwritten⟩
      obtain rfl := Option.some.inj hstep
      exact ⟨_, _, .take _ _ hlooks (List.take_append_drop _ _).symm hnonempty
        (List.length_take_le _ _), .afterStep ⟨rfl, rfl⟩ (by simp [Pump.takeLocal, line])
          (by simp [Pump.takeLocal]), rfl⟩
  · next hnone =>
      split at hstep
      · next hdone =>
          obtain ⟨hlooks, hdone⟩ := Bool.and_eq_true_iff.1 hdone
          have hnil : s.written = [] := by simpa [hlooks] using hnone
          obtain rfl := Option.some.inj hstep
          exact ⟨_, _, .finish hlooks hnil hdone, .afterStep ⟨rfl, rfl⟩
            (sentOf_eventsOf (s.line p).pump.endLocal) (deliveredOf_eventsOf _), rfl⟩
      · exact moved_of_stepFrame hstep

/-! ## Reached sessions -/

def permits (s : Session) : Act → Bool
  | .arrive _ | .masterDone => true
  | .write _ => s.takesWrites
  | .shutdown | .drop => s.hasNearEnd

/-- The sessions that can be reached, whatever the master and the caller do, and whether or not the
client has been idle in between. -/
inductive Reached (target : Target) : Session → Prop
  | start : Reached target (.start target)
  | act {s : Session} (a : Act) (reached : Reached target s) (permits : s.permits a = true) :
      Reached target (s.apply a)
  | step {s s' : Session} (reached : Reached target s) (step : s.step? = some s') :
      Reached target s'

variable {target : Target}

theorem Reached.run (h : Reached target s) (fuel : Nat) : Reached target (s.run fuel) := by
  induction fuel generalizing s with
  | zero => exact h
  | succ fuel ih =>
      rw [Session.run]
      cases hstep : s.step? with
      | none => exact h
      | some s' => exact ih (h.step hstep)

theorem Reached.settle (h : Reached target s) : Reached target s.settle :=
  h.run _

/-- The messages by which a channel is opened. -/
inductive Preliminary : Outbound → Prop
  | hello : Preliminary .hello
  | proxy : Preliminary .proxy
  | channelOpen (target : Target) : Preliminary (.channelOpen target)
  | requestFailure : Preliminary .requestFailure

theorem preliminary_of_mem_receive {phase : Phase} {body : Bytes} {m : Outbound}
    (hm : m ∈ (phase.receive target body).1) : Preliminary m := by
  cases phase with
  | hello =>
      rw [Phase.receive] at hm
      split at hm
      · obtain rfl := List.mem_singleton.1 hm
        exact .proxy
      · simp at hm
  | proxy =>
      rw [Phase.receive] at hm
      split at hm
      · split at hm
        · obtain rfl := List.mem_singleton.1 hm
          exact .channelOpen target
        · simp at hm
      · simp at hm
  | confirmation =>
      rw [(confirmation_cases target body).1] at hm
      obtain rfl := List.eq_of_mem_replicate hm
      exact .requestFailure

/-- A session has a run: what it has sent since its channel was opened, and all that it has
delivered, belong to the run. -/
def Runs (s : Session) (next : Except Ending Line) : Prop :=
  ∃ c events preliminaries, Line.Runs c events next ∧ (∀ m ∈ preliminaries, Preliminary m) ∧
    s.sent.reverse = preliminaries ++ sentOf events ∧
    s.delivered.reverse.flatten = deliveredOf events

theorem Runs.move (h : s.Runs (.ok (s.line p))) (moved : s.Moved p s') :
    ∃ next, s'.outcome? = some next ∧ s'.Runs next := by
  obtain ⟨c, events, preliminaries, hrun, hpreliminary, hsent, hdelivered⟩ := h
  obtain ⟨moved, next, hmove, hadds, hnext⟩ := moved
  refine ⟨next, hnext, c, events ++ moved, preliminaries, hrun.move hmove, hpreliminary, ?_, ?_⟩
  · rw [hadds.sent, hsent, sentOf_append, List.append_assoc]
  · rw [hadds.delivered, hdelivered, deliveredOf_append]

/-- A session whose channel is being opened: nothing has happened at the pipe. -/
structure Untouched (s : Session) : Prop where
  preliminary : ∀ m ∈ s.sent, Preliminary m
  written : s.written = []
  delivered : s.delivered = []
  nearDone : s.nearDone = false
  nearGone : s.nearGone = false

theorem Untouched.withDeframer (h : s.Untouched) (deframer : Deframer) :
    { s with deframer }.Untouched :=
  ⟨h.preliminary, h.written, h.delivered, h.nearDone, h.nearGone⟩

theorem Untouched.line_afterOpening (h : s.Untouched) (messages : List Outbound)
    (c : RemoteChannel) : (s.afterOpening messages (.opened c)).line (.ofChannel c) =
      { pump := .ofChannel c } := by
  simp [line, afterOpening, h.written, h.nearDone, h.nearGone, Pump.ofChannel]

/-- A session has been untouched until its channel was open, and has a run from then on. -/
structure Follows (s : Session) : Prop where
  untouched : ∀ phase, s.client = .opening phase → s.Untouched
  runs : ∀ next, s.outcome? = some next → s.Runs next

theorem follows_of_runs {next : Except Ending Line} (hnext : s.outcome? = some next)
    (h : s.Runs next) : s.Follows where
  untouched phase hclient := by simp [outcome?, hclient] at hnext
  runs next' hnext' := by
    obtain rfl := Option.some.inj (hnext.symm.trans hnext')
    exact h

theorem follows_of_untouched {phase : Phase} (hclient : s.client = .opening phase)
    (h : s.Untouched) : s.Follows where
  untouched _ _ := h
  runs next hnext := by simp [outcome?, hclient] at hnext

theorem follows_of_failed {fault : Fault} (hclient : s.client = .failed fault) : s.Follows where
  untouched phase h := by simp [hclient] at h
  runs next h := by simp [outcome?, hclient] at h

theorem Untouched.follows_afterOpening (h : s.Untouched) {messages : List Outbound}
    (hmessages : ∀ m ∈ messages, Preliminary m) (o : Opening) :
    (s.afterOpening messages o).Follows := by
  have hsent : ∀ m ∈ messages.reverse ++ s.sent, Preliminary m := by
    intro m hm
    rcases List.mem_append.1 hm with hm | hm
    · exact hmessages m (List.mem_reverse.1 hm)
    · exact h.preliminary m hm
  cases o with
  | waiting phase =>
      exact follows_of_untouched rfl ⟨hsent, h.written, h.delivered, h.nearDone, h.nearGone⟩
  | opened channel =>
      refine follows_of_runs rfl
        ⟨channel, [], (messages.reverse ++ s.sent).reverse, ?_, ?_, ?_, ?_⟩
      · rw [h.line_afterOpening]
        exact .opened
      · exact fun m hm => hsent m (List.mem_reverse.1 hm)
      · simp [afterOpening]
      · simp [afterOpening, h.delivered]
  | failed fault => exact follows_of_failed rfl

theorem Untouched.follows_of_stepOpening {phase : Phase} (h : s.Untouched)
    (hstep : s.stepOpening phase = some s') : s'.Follows := by
  rw [stepOpening] at hstep
  split at hstep
  · obtain rfl := Option.some.inj hstep
    exact follows_of_failed rfl
  · next body deframer hbody =>
      have hsent : ∀ m ∈ (phase.receive s.target body).1, Preliminary m :=
        fun _ => preliminary_of_mem_receive
      generalize phase.receive s.target body = received at hstep hsent
      obtain rfl := Option.some.inj hstep
      exact (h.withDeframer deframer).follows_afterOpening hsent received.2
  · split at hstep
    · obtain rfl := Option.some.inj hstep
      exact follows_of_failed rfl
    · cases hstep

theorem Follows.of_step (h : s.Follows) (hstep : s.step? = some s') : s'.Follows := by
  rw [step?] at hstep
  split at hstep
  · next phase hclient => exact (h.untouched phase hclient).follows_of_stepOpening hstep
  · next p hclient =>
      have hruns := h.runs (.ok (s.line p)) (by rw [outcome?, hclient])
      obtain ⟨next, hnext, hruns'⟩ := hruns.move (moved_of_stepPump hstep)
      exact follows_of_runs hnext hruns'
  · cases hstep
  · cases hstep

/-- What the caller does at its end of the pipe is a move, and what the master does is none. -/
theorem apply_cases (hclient : s.client = .pumping p) {a : Act} (permits : s.permits a = true) :
    s.Moved p (s.apply a) ∨ (s.apply a).outcome? = s.outcome? ∧ (s.apply a).sent = s.sent ∧
      (s.apply a).delivered = s.delivered := by
  have hmoved : ∀ {moved : List Event}, Moves (s.line p) moved (.ok ((s.apply a).line p)) →
      s.Adds moved (s.apply a) → s.Moved p (s.apply a) := by
    intro moved hmove hadds
    have hclient' : (s.apply a).client = .pumping p := by cases a <;> exact hclient
    exact ⟨moved, _, hmove, hadds, by rw [outcome?, hclient']⟩
  cases a with
  | arrive octets => exact .inr ⟨rfl, rfl, rfl⟩
  | masterDone => exact .inr ⟨rfl, rfl, rfl⟩
  | write octets =>
      have hopen : s.nearDone = false := by
        simp only [Session.permits, takesWrites, Bool.and_eq_true, Bool.not_eq_true'] at permits
        exact permits.1.2
      exact .inl (hmoved (.write octets hopen) ⟨by simp [Session.apply], by simp [Session.apply]⟩)
  | shutdown => exact .inl (hmoved .shutdown ⟨by simp [Session.apply], by simp [Session.apply]⟩)
  | drop => exact .inl (hmoved .drop ⟨by simp [Session.apply], by simp [Session.apply]⟩)

theorem Runs.apply (h : s.Runs (.ok (s.line p))) (hclient : s.client = .pumping p) {a : Act}
    (permits : s.permits a = true) : (s.apply a).Follows := by
  rcases apply_cases hclient permits with hmoved | ⟨hnext, hsent, hdelivered⟩
  · obtain ⟨next, hnext, hruns⟩ := h.move hmoved
    exact follows_of_runs hnext hruns
  · have hruns : (s.apply a).Runs (.ok (s.line p)) := by rwa [Runs, hsent, hdelivered]
    exact follows_of_runs (by rw [hnext, outcome?, hclient]) hruns

theorem Follows.of_apply (h : s.Follows) {a : Act} (permits : s.permits a = true) :
    (s.apply a).Follows := by
  cases hclient : s.client with
  | opening phase =>
      obtain ⟨hsent, hwritten, hdelivered, hdone, hgone⟩ := h.untouched phase hclient
      have hnone : s.hasNearEnd = false := by simp [hasNearEnd, hclient]
      cases a with
      | arrive octets =>
          exact follows_of_untouched hclient ⟨hsent, hwritten, hdelivered, hdone, hgone⟩
      | masterDone =>
          exact follows_of_untouched hclient ⟨hsent, hwritten, hdelivered, hdone, hgone⟩
      | write octets => simp [Session.permits, takesWrites, hnone] at permits
      | shutdown => simp [Session.permits, hnone] at permits
      | drop => simp [Session.permits, hnone] at permits
  | failed fault => exact follows_of_failed (by cases a <;> exact hclient)
  | pumping p => exact (h.runs _ (by rw [outcome?, hclient])).apply hclient permits
  | ended e =>
      have hruns := h.runs (.error e) (by rw [outcome?, hclient])
      have hclient' : (s.apply a).client = .ended e := by cases a <;> exact hclient
      refine follows_of_runs (by rw [outcome?, hclient']) ?_
      cases a <;> exact hruns

theorem Reached.follows (h : Reached target s) : s.Follows := by
  induction h with
  | start =>
      have hsent : ∀ m ∈ (Session.start target).sent, Preliminary m :=
        fun m hm => List.mem_singleton.1 hm ▸ .hello
      exact follows_of_untouched rfl ⟨hsent, rfl, rfl, rfl, rfl⟩
  | act a reached permits ih => exact ih.of_apply permits
  | step reached step ih => exact ih.of_step step

/-- A session that can be reached has a run as soon as its channel is open. -/
theorem Reached.runs (h : Reached target s) {next : Except Ending Line}
    (hnext : s.outcome? = some next) : s.Runs next :=
  h.follows.runs next hnext

theorem reached_of_throughControl {octets : Bytes}
    (h : Connection.throughControl target octets = .ok (some (.channel s))) :
    Reached target s := by
  have hreached := (Reached.start.act (.arrive octets) rfl : Reached target _).settle
  rw [Connection.throughControl] at h
  generalize ((start target).apply (.arrive octets)).settle = settled at h hreached
  cases hclient : settled.client with
  | opening phase => simp [hclient] at h
  | failed fault => simp [hclient] at h
  | pumping p =>
      obtain rfl : settled = s := by simpa [hclient] using h
      exact hreached
  | ended e =>
      obtain rfl : settled = s := by simpa [hclient] using h
      exact hreached

end Session

end SshTunnel.Mux
