import SshTunnel.Proofs.Mux.Frames
import SshTunnel.Proofs.Mux.Sessions

/-!
# Sessions with their history

`Visits target acts s` keeps with a session that can be reached what the master and the caller have
done. Every step of the client takes in octets or an end (`Advances.remaining_lt`), so that a
settled session has nothing left to do (`Visits.idle_settle`). A session that has been visited has
taken up whole frames off the octets that have arrived, and has opened its channel, or not, as these
say (`Visits.traced`).
-/

namespace SshTunnel.Mux

open Line

def Act.octets : Act → Bytes
  | arrive octets => octets
  | _ => []

def arrivedOf (acts : List Act) : Bytes :=
  acts.flatMap Act.octets

@[simp] theorem arrivedOf_append (acts acts' : List Act) :
    arrivedOf (acts ++ acts') = arrivedOf acts ++ arrivedOf acts' :=
  List.flatMap_append

@[simp] theorem arrivedOf_singleton (a : Act) : arrivedOf [a] = a.octets := by
  simp [arrivedOf]

namespace Session

variable {s s' : Session} {target : Target} {acts : List Act}

/-! ## Steps of a client -/

/-- What a client can do next while its deframer expects nothing yet. -/
inductive Advances (s : Session) : Session → Prop
  | opens {phase : Phase} {body rest : Bytes} (client : s.client = .opening phase)
      (short : body.length ≤ maxFrame) (pending : s.deframer.pending = frame body ++ rest) :
      Advances s ({ s with deframer := ⟨none, rest⟩ }.afterOpening
        (phase.receive s.target body).1 (phase.receive s.target body).2)
  | fails {phase : Phase} {fault : Fault} (client : s.client = .opening phase)
      (broken : Oversized s.deframer.pending ∨
        Incomplete s.deframer.pending ∧ s.masterDone = true) :
      Advances s { s with client := .failed fault }
  | takes {p : Pump} (client : s.client = .pumping p) (looks : p.looksAtPipe = true)
      (nonempty : s.written ≠ []) :
      Advances s ({ s with written := s.written.drop p.limit }.afterStep
        (p.takeLocal (s.written.take p.limit)))
  | finishes {p : Pump} (client : s.client = .pumping p) (looks : p.looksAtPipe = true) :
      Advances s (s.afterStep p.endLocal)
  | handles {p : Pump} {body rest : Bytes} (client : s.client = .pumping p)
      (pending : s.deframer.pending = frame body ++ rest) :
      Advances s ({ s with deframer := ⟨none, rest⟩ }.afterStep
        ({ p with nearGone := s.nearGone }.receiveFrame body))
  | ends {p : Pump} {ending : Ending} (client : s.client = .pumping p) :
      Advances s { s with client := .ended ending }

theorem advances_of_stepOpening {phase : Phase} (hexpected : s.deframer.expected = none)
    (hclient : s.client = .opening phase) (hstep : s.stepOpening phase = some s') :
    s.Advances s' := by
  rw [stepOpening] at hstep
  rcases Deframer.next_cases hexpected with
    ⟨body, rest, hshort, hpending, hnext⟩ | ⟨hincomplete, d, hnext⟩ | ⟨hoversized, hnext⟩
  · rw [hnext] at hstep
    obtain rfl := Option.some.inj hstep
    exact .opens hclient hshort hpending
  · simp only [hnext] at hstep
    split at hstep
    · next hdone =>
        obtain rfl := Option.some.inj hstep
        exact .fails hclient (.inr ⟨hincomplete, hdone⟩)
    · cases hstep
  · rw [hnext] at hstep
    obtain rfl := Option.some.inj hstep
    exact .fails hclient (.inl hoversized)

theorem advances_of_stepFrame {p : Pump} (hexpected : s.deframer.expected = none)
    (hclient : s.client = .pumping p)
    (hstep : s.stepFrame { p with nearGone := s.nearGone } = some s') : s.Advances s' := by
  rw [stepFrame] at hstep
  rcases Deframer.next_cases hexpected with
    ⟨body, rest, -, hpending, hnext⟩ | ⟨-, d, hnext⟩ | ⟨-, hnext⟩
  · rw [hnext] at hstep
    obtain rfl := Option.some.inj hstep
    exact .handles hclient hpending
  · simp only [hnext] at hstep
    split at hstep
    · obtain rfl := Option.some.inj hstep
      exact .ends hclient
    · cases hstep
  · rw [hnext] at hstep
    obtain rfl := Option.some.inj hstep
    exact .ends hclient

theorem advances_of_step (hexpected : s.deframer.expected = none) (hstep : s.step? = some s') :
    s.Advances s' := by
  rw [step?] at hstep
  split at hstep
  · next phase hclient => exact advances_of_stepOpening hexpected hclient hstep
  · next p hclient =>
      rw [stepPump] at hstep
      split at hstep
      · next hwritten =>
          obtain rfl := Option.some.inj hstep
          obtain ⟨hlooks, hwritten⟩ := Bool.and_eq_true_iff.1 hwritten
          exact .takes hclient hlooks (by simpa using hwritten)
      · split at hstep
        · next hdone =>
            obtain rfl := Option.some.inj hstep
            exact .finishes hclient (Bool.and_eq_true_iff.1 hdone).1
        · exact advances_of_stepFrame hexpected hclient hstep
  · cases hstep
  · cases hstep

namespace Advances

theorem expected (h : s.Advances s') (hexpected : s.deframer.expected = none) :
    s'.deframer.expected = none := by
  cases h with
  | opens | handles => rfl
  | _ => exact hexpected

theorem target_eq (h : s.Advances s') : s'.target = s.target := by
  cases h <;> rfl

theorem masterDone_eq (h : s.Advances s') : s'.masterDone = s.masterDone := by
  cases h <;> rfl

end Advances

def weight (c : Client) : Nat :=
  match c with
  | .opening _ => 1
  | .pumping p => if p.localEof then 1 else 2
  | .failed _ | .ended _ => 0

def remaining (s : Session) : Nat :=
  s.deframer.pending.length + s.written.length + weight s.client

theorem weight_le (c : Client) : weight c ≤ 2 := by
  cases c with
  | pumping p => cases h : p.localEof <;> simp [weight, h]
  | _ => simp [weight]

theorem weight_pos (p : Pump) : 0 < weight (.pumping p) := by
  cases h : p.localEof <;> simp [weight, h]

theorem Advances.remaining_lt (h : s.Advances s') : s'.remaining < s.remaining := by
  cases h with
  | @opens phase body rest client short pending =>
      have hweight := weight_le ({ s with deframer := ⟨none, rest⟩ }.afterOpening
        (phase.receive s.target body).1 (phase.receive s.target body).2).client
      have hpending : s.deframer.pending.length = 4 + body.length + rest.length := by
        rw [pending, List.length_append, length_frame]
      simp only [remaining, afterOpening] at hweight ⊢
      omega
  | @handles p body rest client pending =>
      have hweight := weight_le ({ s with deframer := ⟨none, rest⟩ }.afterStep
        ({ p with nearGone := s.nearGone }.receiveFrame body)).client
      have hpending : s.deframer.pending.length = 4 + body.length + rest.length := by
        rw [pending, List.length_append, length_frame]
      simp only [remaining, afterStep] at hweight ⊢
      omega
  | @takes p client looks nonempty =>
      have hlimit := (Pump.looksAtPipe_eq_true_iff.1 looks).1
      have hwritten := List.length_pos_iff.2 nonempty
      simp only [remaining, client, weight, afterStep, Pump.takeLocal, List.length_drop]
      omega
  | @finishes p client looks =>
      have hopen := (Pump.looksAtPipe_eq_true_iff.1 looks).2
      simp [remaining, client, weight, afterStep, Pump.endLocal, hopen]
  | fails client broken => simp [remaining, client, weight]
  | @ends p ending client =>
      have hweight := weight_pos p
      simp only [remaining, client, weight] at hweight ⊢
      omega

/-- A client that has gone on for long enough has nothing left to do. -/
theorem step?_run_eq_none (hexpected : s.deframer.expected = none) {fuel : Nat}
    (hfuel : s.remaining ≤ fuel) : (s.run fuel).step? = none := by
  induction fuel generalizing s with
  | zero =>
      cases hstep : s.step? with
      | none => exact hstep
      | some s' =>
          have hlt := (advances_of_step hexpected hstep).remaining_lt
          omega
  | succ fuel ih =>
      rw [run]
      cases hstep : s.step? with
      | none => exact hstep
      | some s' =>
          have hadvances := advances_of_step hexpected hstep
          have hlt := hadvances.remaining_lt
          exact ih (hadvances.expected hexpected) (by omega)

theorem step?_settle_eq_none (hexpected : s.deframer.expected = none) :
    s.settle.step? = none := by
  have hweight := weight_le s.client
  exact step?_run_eq_none hexpected (by rw [remaining]; omega)

/-! ## Histories -/

/-- What can happen next. Nothing arrives once the master is done. -/
def admits (s : Session) : Act → Bool
  | .arrive _ => !s.masterDone
  | a => s.permits a

/-- The sessions that can be reached, with what the master and the caller have done. -/
inductive Visits (target : Target) : List Act → Session → Prop
  | start : Visits target [] (.start target)
  | act {acts : List Act} {s : Session} (a : Act) (visits : Visits target acts s)
      (admits : s.admits a = true) : Visits target (acts ++ [a]) (s.apply a)
  | step {acts : List Act} {s s' : Session} (visits : Visits target acts s)
      (step : s.step? = some s') : Visits target acts s'

theorem permits_of_admits {a : Act} (h : s.admits a = true) : s.permits a = true := by
  cases a with
  | arrive octets => rfl
  | _ => exact h

namespace Visits

theorem reached (h : Visits target acts s) : Reached target s := by
  induction h with
  | start => exact .start
  | act a visits admits ih => exact ih.act a (permits_of_admits admits)
  | step visits step ih => exact ih.step step

theorem run (h : Visits target acts s) (fuel : Nat) : Visits target acts (s.run fuel) := by
  induction fuel generalizing s with
  | zero => exact h
  | succ fuel ih =>
      rw [Session.run]
      cases hstep : s.step? with
      | none => exact h
      | some s' => exact ih (h.step hstep)

theorem settle (h : Visits target acts s) : Visits target acts s.settle :=
  h.run _

theorem expected (h : Visits target acts s) : s.deframer.expected = none := by
  induction h with
  | start => rfl
  | act a visits admits ih => cases a <;> exact ih
  | step visits step ih => exact (advances_of_step ih step).expected ih

theorem target_eq (h : Visits target acts s) : s.target = target := by
  induction h with
  | start => rfl
  | act a visits admits ih => cases a <;> exact ih
  | step visits step ih => rw [(advances_of_step visits.expected step).target_eq, ih]

theorem masterDone_iff (h : Visits target acts s) :
    s.masterDone = true ↔ Act.masterDone ∈ acts := by
  induction h with
  | start => simp [Session.start]
  | act a visits admits ih => cases a <;> simp [apply, ih]
  | step visits step ih => rw [(advances_of_step visits.expected step).masterDone_eq, ih]

theorem idle_settle (h : Visits target acts s) : s.settle.step? = none :=
  step?_settle_eq_none h.expected

end Visits

/-- A session has come out of the opening of its channel, and out of what has happened since. -/
inductive ComesOf (s : Session) (events : List Event) (rest : Bytes) : Opening → Prop
  | waiting {phase : Phase} (client : s.client = .opening phase)
      (pending : s.deframer.pending = rest) (sent : s.sent.reverse = .hello :: sentOf events) :
      ComesOf s events rest (.waiting phase)
  /-- The connection has broken, or has ended. -/
  | broken {phase : Phase} {fault : Fault} (client : s.client = .failed fault)
      (broken : Oversized rest ∨ Incomplete rest ∧ s.masterDone = true) :
      ComesOf s events rest (.waiting phase)
  | failed {fault : Fault} (client : s.client = .failed fault) :
      ComesOf s events rest (.failed fault)
  | opened {c : RemoteChannel} {pumping : List Event} {next : Except Ending Line}
      (outcome : s.outcome? = some next) (runs : Line.Runs c pumping next)
      (sent : s.sent.reverse = .hello :: sentOf events ++ sentOf pumping) :
      ComesOf s events rest (.opened c)

theorem Untouched.comesOf_afterOpening (h : s.Untouched) {events : List Event}
    (hsent : s.sent.reverse = .hello :: sentOf events) (body : Bytes) (messages : List Outbound)
    (o : Opening) : (s.afterOpening messages o).ComesOf (events ++ eventsOn body messages)
      s.deframer.pending o := by
  have hsent' : (s.afterOpening messages o).sent.reverse =
      .hello :: sentOf (events ++ eventsOn body messages) := by
    simp [afterOpening, hsent]
  cases o with
  | waiting phase => exact .waiting rfl rfl hsent'
  | opened c =>
      have hruns : Line.Runs c [] (.ok ((s.afterOpening messages (.opened c)).line
          (.ofChannel c))) := by
        rw [h.line_afterOpening]
        exact .opened
      exact .opened rfl hruns (by simpa using hsent')
  | failed fault => exact .failed rfl

namespace ComesOf

variable {events : List Event} {rest : Bytes} {o : Opening}

theorem of_opening {phase : Phase} (h : s.ComesOf events rest o)
    (hclient : s.client = .opening phase) :
    o = .waiting phase ∧ s.deframer.pending = rest ∧ s.sent.reverse = .hello :: sentOf events := by
  cases h with
  | waiting client pending sent =>
      obtain rfl : _ = phase := by simpa [hclient] using client.symm
      exact ⟨rfl, pending, sent⟩
  | opened outcome => simp [outcome?, hclient] at outcome
  | broken client | failed client => simp [hclient] at client

theorem of_outcome {next : Except Ending Line} (h : s.ComesOf events rest o)
    (hnext : s.outcome? = some next) : ∃ c pumping, o = .opened c ∧ Line.Runs c pumping next ∧
      s.sent.reverse = .hello :: sentOf events ++ sentOf pumping := by
  cases h with
  | opened outcome runs sent =>
      obtain rfl := Option.some.inj (hnext.symm.trans outcome)
      exact ⟨_, _, rfl, runs, sent⟩
  | waiting client | broken client | failed client => simp [outcome?, client] at hnext

theorem move {p : Pump} (h : s.ComesOf events rest o) (hclient : s.client = .pumping p)
    (moved : s.Moved p s') (rest' : Bytes) : s'.ComesOf events rest' o := by
  obtain ⟨c, pumping, rfl, hruns, hsent⟩ := h.of_outcome (by rw [outcome?, hclient])
  obtain ⟨moved, next, hmove, hadds, hnext⟩ := moved
  refine .opened hnext (hruns.move hmove) ?_
  rw [hadds.sent, hsent, sentOf_append, List.append_assoc]

theorem apply {a : Act} (h : s.ComesOf events rest o) (admits : s.admits a = true) :
    (s.apply a).ComesOf events (rest ++ a.octets) o := by
  have hcomes := h
  cases h with
  | waiting client pending sent =>
      refine .waiting (by cases a <;> exact client) ?_ (by cases a <;> exact sent)
      cases a <;> simp [Session.apply, Deframer.push, Act.octets, pending]
  | broken client broken =>
      refine .broken (by cases a <;> exact client) ?_
      rcases broken with hoversized | ⟨hincomplete, hdone⟩
      · exact .inl (hoversized.push _)
      · cases a with
        | arrive octets => simp [Session.admits, hdone] at admits
        | masterDone => exact .inr ⟨by simpa [Act.octets] using hincomplete, rfl⟩
        | _ => exact .inr ⟨by simpa [Act.octets] using hincomplete, hdone⟩
  | failed client => exact .failed (by cases a <;> exact client)
  | opened outcome runs sent =>
      cases hclient : s.client with
      | pumping p =>
          rcases apply_cases hclient (permits_of_admits admits) with hmoved | ⟨hnext, hsent, -⟩
          · exact hcomes.move hclient hmoved _
          · exact .opened (hnext.trans outcome) runs (hsent ▸ sent)
      | ended ending =>
          rw [outcome?, hclient] at outcome
          have hclient' : (s.apply a).client = .ended ending := by cases a <;> exact hclient
          exact .opened (by rw [outcome?, hclient']; exact outcome) runs (by cases a <;> exact sent)
      | opening phase => simp [outcome?, hclient] at outcome
      | failed fault => simp [outcome?, hclient] at outcome

end ComesOf

def Traced (target : Target) (acts : List Act) (s : Session) : Prop :=
  ∃ events rest o, Opens target (.waiting .hello) events o ∧
    Framed (arrivedOf acts) (framesOf events) rest ∧ s.ComesOf events rest o

theorem Visits.traced (h : Visits target acts s) : Traced target acts s := by
  induction h with
  | start => exact ⟨[], [], _, .nil _, .refl [], .waiting rfl rfl rfl⟩
  | act a visits admits ih =>
      obtain ⟨events, rest, o, hopens, hframed, hcomes⟩ := ih
      exact ⟨events, _, o, hopens, by simpa using hframed.push a.octets, hcomes.apply admits⟩
  | @step acts s s' visits step ih =>
      obtain ⟨events, rest, o, hopens, hframed, hcomes⟩ := ih
      cases hclient : s.client with
      | pumping p =>
          have hmoved : s.Moved p s' := moved_of_stepPump (by rwa [step?, hclient] at step)
          exact ⟨events, rest, o, hopens, hframed, hcomes.move hclient hmoved rest⟩
      | failed fault => simp [step?, hclient] at step
      | ended ending => simp [step?, hclient] at step
      | opening phase =>
          obtain ⟨rfl, rfl, hsent⟩ := hcomes.of_opening hclient
          cases advances_of_step visits.expected step with
          | @opens phase' body rest client short pending =>
              obtain rfl : phase' = phase := by simpa [hclient] using client.symm
              obtain rfl := visits.target_eq
              have huntouched := visits.reached.follows.untouched phase' hclient
              rw [pending] at hframed
              exact ⟨_, rest, _, hopens.snoc body, by simpa using hframed.snoc short,
                (huntouched.withDeframer ⟨none, rest⟩).comesOf_afterOpening hsent body _ _⟩
          | fails client broken => exact ⟨events, _, _, hopens, hframed, .broken rfl broken⟩
          | takes client | finishes client | handles client | ends client =>
              simp [hclient] at client

end Session

end SshTunnel.Mux
