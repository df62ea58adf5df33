import SshTunnel.Proofs.Resolution.Execution
import SshTunnel.Proofs.Resolution.Unique

/-!
# The order of a resolution

`Accords events phase` collects what the events of a resolution have shown when it is in a phase:
that the host key was accepted before anything was offered, that a login came of an accepted offer
of the plan, and that a session without its remote socket is ended. Each move keeps it up, and so
does every run.
-/

namespace SshTunnel

section Order

variable (dialer : Dialer) (plan : Plan) (timeout : Duration)

/-- Events show that the other end is a server whose host key is accepted. -/
def Proven (events : List Event) (server : Server) : Prop :=
  Meets dialer plan timeout server ∧ plan.Trusts server ∧
    .judged plan.target.host plan.target.port server.hostKey true ∈ events

/-- Events show that such a server has accepted the last of the offers made to it, which a method
of the plan makes for its user. -/
def Authenticated (events : List Event) (server : Server) : Prop :=
  Proven dialer plan timeout events server ∧
    ∃ history offer, offersOf events = history ++ [offer] ∧
      server.answer history offer = .accepted ∧ ∃ m ∈ plan.auth, offer ∈ m.offers plan.user

def NothingUnopened (events : List Event) : Prop :=
  ∀ path, .opened path false ∉ events

def Accords (events : List Event) : Phase → Prop
  | .start | .dialed | .refused => offersOf events = [] ∧ NothingUnopened events
  | .trusted server history =>
      Proven dialer plan timeout events server ∧ offersOf events = history ∧ NothingUnopened events
  | .broken _ | .unanswered =>
      (∃ server, Proven dialer plan timeout events server) ∧ NothingUnopened events
  | .loggedIn server => Authenticated dialer plan timeout events server ∧ NothingUnopened events
  | .streaming =>
      ∃ server, Authenticated dialer plan timeout events server ∧
        server.opens plan.remoteSocket = .ok () ∧ .opened plan.remoteSocket true ∈ events ∧
        NothingUnopened events
  | .unopened reason =>
      ∃ server, Authenticated dialer plan timeout events server ∧
        server.opens plan.remoteSocket = .error reason ∧
        ∃ before, events = before ++ [.opened plan.remoteSocket false] ∧ NothingUnopened before
  | .ended reason =>
      ∃ server, Authenticated dialer plan timeout events server ∧
        server.opens plan.remoteSocket = .error reason ∧
        ∃ before, events = before ++ [.opened plan.remoteSocket false, .disconnected] ∧
          NothingUnopened before

end Order

section Runs

variable {dialer : Dialer} {plan : Plan} {timeout : Duration}

theorem Proven.append {events : List Event} {server : Server}
    (h : Proven dialer plan timeout events server) (events' : List Event) :
    Proven dialer plan timeout (events ++ events') server := by
  obtain ⟨hmeets, htrusts, hmem⟩ := h
  exact ⟨hmeets, htrusts, List.mem_append_left _ hmem⟩

theorem Authenticated.append {events : List Event} {server : Server}
    (h : Authenticated dialer plan timeout events server) {event : Event}
    (hevent : offersOf [event] = []) :
    Authenticated dialer plan timeout (events ++ [event]) server := by
  obtain ⟨hproven, history, offer, hoffers, haccepted⟩ := h
  refine ⟨hproven.append _, history, offer, ?_, haccepted⟩
  rw [offersOf_append, hevent, List.append_nil, hoffers]

theorem NothingUnopened.append {events : List Event} (h : NothingUnopened events) {event : Event}
    (hevent : ∀ path, event ≠ .opened path false) : NothingUnopened (events ++ [event]) := by
  intro path hmem
  rcases List.mem_append.1 hmem with hmem | hmem
  · exact h path hmem
  · exact hevent path (List.mem_singleton.1 hmem).symm

theorem accords_answered {events : List Event} {server : Server} {history : List Offer}
    {m : AuthMethod} {offer : Offer}
    (h : Accords dialer plan timeout events (.trusted server history)) (hm : m ∈ plan.auth)
    (hoffer : offer ∈ m.offers plan.user) (accepted : Bool) :
    Accords dialer plan timeout (events ++ [.offered offer accepted])
      (.answered server history m offer (server.answer history offer)) := by
  obtain ⟨hproven, hhistory, hopened⟩ := h
  have hproven' := hproven.append [.offered offer accepted]
  have hopened' : NothingUnopened (events ++ [.offered offer accepted]) := hopened.append (by simp)
  have hhistory' : offersOf (events ++ [.offered offer accepted]) = history ++ [offer] := by
    rw [offersOf_append, hhistory]
    rfl
  cases hanswer : server.answer history offer with
  | accepted =>
      exact ⟨⟨hproven', history, offer, hhistory', hanswer, m, hm, hoffer⟩, hopened'⟩
  | rejected => exact ⟨hproven', hhistory', hopened'⟩
  | broken reason =>
      rw [Phase.answered]
      split
      · exact ⟨hproven', hhistory', hopened'⟩
      · exact ⟨⟨server, hproven'⟩, hopened'⟩
  | none => exact ⟨⟨server, hproven'⟩, hopened'⟩

theorem Moves.accords {phase phase' : Phase} {event : Event}
    (move : Moves dialer plan timeout phase event phase') {events : List Event}
    (h : Accords dialer plan timeout events phase) :
    Accords dialer plan timeout (events ++ [event]) phase' := by
  cases move with
  | dial =>
      obtain ⟨hoffers, hopened⟩ := h
      exact ⟨by rw [offersOf_append, hoffers]; rfl, hopened.append (by simp)⟩
  | accept meets time trusts =>
      obtain ⟨hoffers, hopened⟩ := h
      refine ⟨⟨meets, trusts, by simp⟩, ?_, hopened.append (by simp)⟩
      rw [offersOf_append, hoffers]
      rfl
  | refuse meets time distrusts =>
      obtain ⟨hoffers, hopened⟩ := h
      exact ⟨by rw [offersOf_append, hoffers]; rfl, hopened.append (by simp)⟩
  | offer exchange methods ready offers place =>
      exact accords_answered h (by simp [methods]) (by simp [offers]) _
  | openSocket opens =>
      obtain ⟨hauth, hopened⟩ := h
      exact ⟨_, hauth.append rfl, opens, by simp, hopened.append (by simp)⟩
  | failToOpen opens =>
      obtain ⟨hauth, hopened⟩ := h
      exact ⟨_, hauth.append rfl, opens, events, rfl, hopened⟩
  | disconnect =>
      obtain ⟨server, hauth, hopens, before, rfl, hopened⟩ := h
      exact ⟨server, hauth.append rfl, hopens, before, by simp, hopened⟩

theorem Runs.accords {phase phase' : Phase} {events : List Event}
    (runs : Runs dialer plan timeout phase events phase') {before : List Event}
    (h : Accords dialer plan timeout before phase) :
    Accords dialer plan timeout (before ++ events) phase' := by
  induction runs generalizing before with
  | nil => simpa using h
  | cons move _ ih =>
      rw [List.append_cons]
      exact ih (move.accords h)

theorem Runs.accords_of_start {phase : Phase} {events : List Event}
    (runs : Runs dialer plan timeout .start events phase) :
    Accords dialer plan timeout events phase := by
  have hstart : Accords dialer plan timeout [] .start := ⟨rfl, by simp [NothingUnopened]⟩
  exact runs.accords hstart

theorem Runs.split {phase phase'' : Phase} {before after : List Event} {event : Event}
    (runs : Runs dialer plan timeout phase (before ++ event :: after) phase'') :
    ∃ phase', Runs dialer plan timeout phase before phase' ∧
      ∃ next, Moves dialer plan timeout phase' event next := by
  induction before generalizing phase with
  | nil =>
      cases runs with
      | cons move _ => exact ⟨phase, .nil _, _, move⟩
  | cons first before ih =>
      cases runs with
      | cons move rest =>
          obtain ⟨phase', hbefore, hnext⟩ := ih rest
          exact ⟨phase', .cons move hbefore, hnext⟩

/-- An offer is made only after the host key has been accepted. -/
theorem Runs.proven_of_offered {phase : Phase} {before after : List Event} {offer : Offer}
    {accepted : Bool}
    (runs : Runs dialer plan timeout .start (before ++ .offered offer accepted :: after) phase) :
    ∃ server, Proven dialer plan timeout before server := by
  obtain ⟨phase', hbefore, next, move⟩ := runs.split
  have haccords := hbefore.accords_of_start
  cases move with
  | offer _ _ _ _ _ => exact ⟨_, haccords.1⟩

/-- Nothing has been offered in a phase before the host key is accepted; in any other it has been
accepted. -/
theorem Accords.early_or_proven {phase : Phase} {events : List Event}
    (h : Accords dialer plan timeout events phase) :
    ((phase = .start ∨ phase = .dialed ∨ phase = .refused) ∧ offersOf events = []) ∨
      ∃ server, Proven dialer plan timeout events server := by
  cases phase with
  | start => exact .inl ⟨.inl rfl, h.1⟩
  | dialed => exact .inl ⟨.inr (.inl rfl), h.1⟩
  | refused => exact .inl ⟨.inr (.inr rfl), h.1⟩
  | trusted server history => exact .inr ⟨server, h.1⟩
  | broken reason => exact .inr h.1
  | unanswered => exact .inr h.1
  | loggedIn server => exact .inr ⟨server, h.1.1⟩
  | streaming =>
      obtain ⟨server, ⟨hproven, -⟩, -⟩ := h
      exact .inr ⟨server, hproven⟩
  | unopened reason =>
      obtain ⟨server, ⟨hproven, -⟩, -⟩ := h
      exact .inr ⟨server, hproven⟩
  | ended reason =>
      obtain ⟨server, ⟨hproven, -⟩, -⟩ := h
      exact .inr ⟨server, hproven⟩

/-- No attempt to open a socket has failed, but for the phases that follow such an attempt. -/
theorem Accords.unopened_or_not {phase : Phase} {events : List Event}
    (h : Accords dialer plan timeout events phase) :
    (∃ reason, phase = .unopened reason ∨ phase = .ended reason) ∨ NothingUnopened events := by
  cases phase with
  | start => exact .inr h.2
  | dialed => exact .inr h.2
  | refused => exact .inr h.2
  | trusted server history => exact .inr h.2.2
  | broken reason => exact .inr h.2
  | unanswered => exact .inr h.2
  | loggedIn server => exact .inr h.2
  | streaming =>
      obtain ⟨server, -, -, -, hopened⟩ := h
      exact .inr hopened
  | unopened reason => exact .inl ⟨reason, .inl rfl⟩
  | ended reason => exact .inl ⟨reason, .inr rfl⟩

/-- With a server whose host key is not accepted, a resolution ends before anything is offered. -/
theorem Ends.of_distrusted {phase : Phase} {events : List Event} {result : Except Error Stream}
    (ends : Ends dialer plan timeout phase result)
    (h : Accords dialer plan timeout events phase) {server : Server}
    (hmeets : Meets dialer plan timeout server) (hdistrusts : ¬ plan.Trusts server) :
    offersOf events = [] ∧
      (result = .error (.untrustedHost (hostIdentity plan.target.host plan.target.port)) ∨
        (timeout.isZero = true ∧ result = .error (.handshakeTimeout timeout))) := by
  rcases h.early_or_proven with ⟨hphase, hoffers⟩ | ⟨server', hmeets', htrusts, -⟩
  · refine ⟨hoffers, ?_⟩
    rcases hphase with rfl | rfl | rfl
    · cases ends
    · cases ends with
      | dialFailed dial => simp [Meets, dial] at hmeets
      | late dial time => exact .inr ⟨time, rfl⟩
      | silent dial time => simp [Meets, dial] at hmeets
      | noServer dial time => simp [Meets, dial] at hmeets
    · cases ends
      exact .inl rfl
  · obtain rfl := hmeets.unique hmeets'
    exact absurd htrusts hdistrusts

/-- Where a resolution ends and an attempt to open a socket has failed, the session is ended. -/
theorem Ends.of_unopened {phase : Phase} {events : List Event} {result : Except Error Stream}
    (ends : Ends dialer plan timeout phase result)
    (h : Accords dialer plan timeout events phase) {path : String}
    (hopened : .opened path false ∈ events) :
    ∃ before reason, events = before ++ [.opened path false, .disconnected] ∧
      result = .error (.remoteSocketUnreachable path reason) := by
  rcases h.unopened_or_not with ⟨reason, rfl | rfl⟩ | hnone
  · cases ends
  · cases ends
    obtain ⟨server, -, -, before, rfl, hbefore⟩ := h
    rcases List.mem_append.1 hopened with hmem | hmem
    · exact absurd hmem (hbefore path)
    · obtain rfl : path = plan.remoteSocket := by simpa using hmem
      exact ⟨before, reason, rfl, rfl⟩
  · exact absurd hopened (hnone path)

end Runs

/-- What `execute` does is the one complete run of the protocol. Nothing is offered unless the host
key has been accepted before. With a server whose key is not accepted nothing is offered, and the
error is that it is not trusted, unless time is up first. An error at the offer of an agent's
identity is no failing stage: the identity is passed over and the loop goes on to the next one. A
stream comes of an accepted login and an opened socket only. A session whose socket cannot be
opened is ended. -/
theorem execute_in_order (dialer : Dialer) (plan : Plan) (timeout : Duration) :
    let run := execute dialer plan timeout
    (∀ events result,
        (∃ phase, Runs dialer plan timeout .start events phase ∧
            Ends dialer plan timeout phase result) ↔
          events = run.events ∧ result = run.result) ∧
      (∀ before offer accepted after, run.events = before ++ .offered offer accepted :: after →
        ∃ server, Proven dialer plan timeout before server) ∧
      (∀ server, Meets dialer plan timeout server → ¬ plan.Trusts server →
        offersOf run.events = [] ∧
          (run.result = .error (.untrustedHost (hostIdentity plan.target.host plan.target.port)) ∨
            (timeout.isZero = true ∧ run.result = .error (.handshakeTimeout timeout)))) ∧
      (∀ stream, run.result = .ok stream →
        stream = ⟨plan.target.host, plan.user, plan.route, plan.remoteSocket⟩ ∧
          ∃ server, Authenticated dialer plan timeout run.events server ∧
            server.opens plan.remoteSocket = .ok () ∧
            .opened plan.remoteSocket true ∈ run.events) ∧
      ∀ path, .opened path false ∈ run.events →
        ∃ before reason, run.events = before ++ [.opened path false, .disconnected] ∧
          run.result = .error (.remoteSocketUnreachable path reason) := by
  intro run
  obtain ⟨phase, hruns, hends⟩ := execute_runs dialer plan timeout
  have haccords := hruns.accords_of_start
  refine ⟨?_, ?_, ?_, ?_, ?_⟩
  · intro events result
    constructor
    · rintro ⟨phase', hruns', hends'⟩
      exact hruns'.unique hends' hruns hends
    · rintro ⟨rfl, rfl⟩
      exact ⟨phase, hruns, hends⟩
  · intro before offer accepted after hevents
    exact Runs.proven_of_offered (hevents ▸ hruns)
  · intro server hmeets hdistrusts
    exact hends.of_distrusted haccords hmeets hdistrusts
  · intro stream hstream
    rw [show (execute dialer plan timeout).result = .ok stream from hstream] at hends
    cases hends with
    | stream =>
        obtain ⟨server, hauth, hopens, hopened, -⟩ := haccords
        exact ⟨rfl, server, hauth, hopens, hopened⟩
  · intro path hopened
    exact hends.of_unopened haccords hopened

/-- A password is not offered to a server whose key is not known. -/
theorem execute_of_unknown_key :
    let server : Server :=
      { hostKey := ⟨"ssh-ed25519", []⟩, answer := fun _ _ => .accepted, opens := fun _ => .ok () }
    let plan : Plan :=
      { target := ⟨"h1", 2222⟩, user := "bob", auth := [.password "secret"],
        trust := .verify ⟨"known_hosts", []⟩, route := .direct, remoteSocket := "/run/socket",
        notices := [] }
    let run := execute (fun _ _ _ => .ok (.server server)) plan ⟨1⟩
    offersOf run.events = [] ∧ run.result = .error (.untrustedHost "[h1]:2222") := by
  intro server plan run
  have hdistrusts : ¬ plan.Trusts server := by
    rw [Plan.Trusts]
    decide
  obtain ⟨-, -, hrefused, -⟩ := execute_in_order (fun _ _ _ => .ok (.server server)) plan ⟨1⟩
  obtain ⟨hoffers, hresult | ⟨htime, -⟩⟩ := hrefused server rfl hdistrusts
  · have hname : hostIdentity "h1" 2222 = "[h1]:2222" := by decide
    exact ⟨hoffers, hname ▸ hresult⟩
  · simp [Duration.isZero] at htime

end SshTunnel
