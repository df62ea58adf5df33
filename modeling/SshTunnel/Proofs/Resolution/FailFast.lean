import SshTunnel.Proofs.Descriptor.Query
import SshTunnel.Proofs.Resolution.Execution

/-!
# Planning comes before the network

`Plan.failures` lists the errors of the planning steps that fail, in the order of the steps. If
there are any, the first of them is the error of the plan (`Plan.make_eq_error_iff`); otherwise the
plan holds what the steps have given (`Plan.make_cases`). A resolution dials once if there is a
plan, and not at all if there is none (`resolve_fails_fast`).
-/

namespace SshTunnel

/-! ## Steps of planning -/

def errorOf {α : Type} : Except Error α → List Error
  | .ok _ => []
  | .error e => [e]

@[simp] theorem errorOf_ok {α : Type} (a : α) : errorOf (.ok a) = [] := rfl

@[simp] theorem errorOf_error {α : Type} (e : Error) :
    errorOf (.error e : Except Error α) = [e] := rfl

theorem sublist_map_step {α : Type} {x : Except Error α} {s : Step}
    (h : ∀ e, x = .error e → e.step = s) : ((errorOf x).map Error.step).Sublist [s] := by
  cases x with
  | ok a => exact List.nil_sublist _
  | error e => simp [h e rfl]

theorem Descriptor.step_of_sshPort {d : Descriptor} {e : Error} (h : d.sshPort = .error e) :
    e.step = .descriptor := by
  rw [sshPort] at h
  split at h
  · cases h
  · split at h
    · cases h
    · obtain rfl := Except.error.inj h
      rfl

theorem Auth.step_of_chain {d : Descriptor} {defaults : String} {env : Environment}
    {fs : FileSystem} {e : Error} (h : (chain d defaults env fs).1 = .error e) :
    e.step = .auth := by
  rw [chain] at h
  dsimp only at h
  split at h
  · obtain rfl := Except.error.inj h
    rfl
  · cases h

theorem TrustPolicy.step_of_ofDescriptor {d : Descriptor} {env : Environment} {fs : FileSystem}
    {e : Error} (h : ofDescriptor d env fs = .error e) : e.step = .trust := by
  rw [ofDescriptor] at h
  split at h
  · cases h
  · dsimp only at h
    split at h
    · cases h
    · obtain rfl := Except.error.inj h
      rfl

theorem RemoteUser.step_of_resolve {d : Descriptor} {env : Environment} {fs : FileSystem}
    {e : Error} (h : (resolve d env fs).1 = .error e) : e.step = .username := by
  rw [resolve] at h
  split at h
  · cases h
  · dsimp only at h
    split at h
    · cases h
    · obtain rfl := Except.error.inj h
      rfl

theorem Route.step_of_select {d : Descriptor} {env : Environment} {fs : FileSystem} {e : Error}
    (h : select d env fs = .error e) : e.step = .transport := by
  rw [select] at h
  split at h
  · rw [viaControl] at h
    split at h
    · cases h
    · obtain rfl := Except.error.inj h
      rfl
    · obtain rfl := Except.error.inj h
      rfl
  · split at h
    · next raw _ =>
        rw [ProxyAddress.parse] at h
        cases hread : ProxyAddress.read raw.toList with
        | ok address => simp [hread, Except.mapError, Except.map] at h
        | error fault =>
            obtain rfl : Error.proxyAddressInvalid raw fault.message = e := by
              simpa [hread, Except.mapError, Except.map] using h
            rfl
    · cases h

/-! ## Plans -/

namespace Plan

section Make

variable (settings : Settings) (d : Descriptor) (env : Environment) (fs : FileSystem)

/-- The errors of the planning steps that fail, in the order of the steps. -/
def failures : List Error :=
  errorOf d.sshPort ++ (errorOf (Auth.chain d settings.authMethods env fs).1 ++
    (errorOf (TrustPolicy.ofDescriptor d env fs) ++ (errorOf (RemoteUser.resolve d env fs).1 ++
      errorOf (Route.select d env fs))))

/-- A plan holds what the planning steps have given. -/
structure Collects (plan : Plan) : Prop where
  host : plan.target.host = d.host
  port : d.sshPort = .ok plan.target.port
  auth : (Auth.chain d settings.authMethods env fs).1 = .ok plan.auth
  user : (RemoteUser.resolve d env fs).1 = .ok plan.user
  route : Route.select d env fs = .ok plan.route
  trust : ∃ notices, TrustPolicy.ofDescriptor d env fs = .ok (plan.trust, notices) ∧
    plan.notices = (Auth.chain d settings.authMethods env fs).2 ++ notices ++
      (RemoteUser.resolve d env fs).2
  remoteSocket : plan.remoteSocket = (d.get? "socket").getD settings.remoteSocket

end Make

variable {settings : Settings} {d : Descriptor} {env : Environment} {fs : FileSystem}

theorem step_of_failures (settings : Settings) (d : Descriptor) (env : Environment)
    (fs : FileSystem) : ((failures settings d env fs).map Error.step).Sublist
      [.descriptor, .auth, .trust, .username, .transport] := by
  have hport : ((errorOf d.sshPort).map Error.step).Sublist [.descriptor] :=
    sublist_map_step fun _ => Descriptor.step_of_sshPort
  have hauth : ((errorOf (Auth.chain d settings.authMethods env fs).1).map Error.step).Sublist
      [.auth] := sublist_map_step fun _ => Auth.step_of_chain
  have htrust : ((errorOf (TrustPolicy.ofDescriptor d env fs)).map Error.step).Sublist [.trust] :=
    sublist_map_step fun _ => TrustPolicy.step_of_ofDescriptor
  have huser : ((errorOf (RemoteUser.resolve d env fs).1).map Error.step).Sublist [.username] :=
    sublist_map_step fun _ => RemoteUser.step_of_resolve
  have hroute : ((errorOf (Route.select d env fs)).map Error.step).Sublist [.transport] :=
    sublist_map_step fun _ => Route.step_of_select
  simp only [failures, List.map_append]
  exact hport.append (hauth.append (htrust.append (huser.append hroute)))

/-- Either all steps give something, and the plan collects it, or the first error is the error of
the plan. -/
theorem make_cases (settings : Settings) (d : Descriptor) (env : Environment) (fs : FileSystem) :
    (failures settings d env fs = [] ∧
        ∃ plan, make settings d env fs = .ok plan ∧ Collects settings d env fs plan) ∨
      ∃ e later, failures settings d env fs = e :: later ∧ make settings d env fs = .error e := by
  simp only [make, failures]
  rcases hport : d.sshPort with e | port
  · exact .inr ⟨e, _, rfl, rfl⟩
  rcases hauth : (Auth.chain d settings.authMethods env fs).1 with e | auth
  · exact .inr ⟨e, _, rfl, rfl⟩
  rcases htrust : TrustPolicy.ofDescriptor d env fs with e | trust
  · exact .inr ⟨e, _, rfl, rfl⟩
  rcases huser : (RemoteUser.resolve d env fs).1 with e | user
  · exact .inr ⟨e, _, rfl, rfl⟩
  rcases hroute : Route.select d env fs with e | route
  · exact .inr ⟨e, _, rfl, rfl⟩
  · exact .inl ⟨rfl, _, rfl, ⟨rfl, hport, hauth, huser, hroute, ⟨_, htrust, rfl⟩, rfl⟩⟩

theorem make_eq_error_iff {e : Error} :
    make settings d env fs = .error e ↔ ∃ later, failures settings d env fs = e :: later := by
  rcases make_cases settings d env fs with ⟨hnone, plan, hplan, -⟩ | ⟨e', later, hfails, herror⟩
  · simp [hnone, hplan]
  · simp [hfails, herror]

end Plan

/-! ## Attempts to dial -/

def dialsOf (events : List Event) : List (Route × Target × Duration) :=
  events.filterMap fun e =>
    match e with
    | .dialed route target timeout => some (route, target, timeout)
    | _ => none

section Execute

variable {dialer dialer' : Dialer} {plan : Plan} {timeout : Duration}

theorem Moves.ne_start {phase phase' : Phase} {event : Event}
    (move : Moves dialer plan timeout phase event phase') : phase' ≠ .start := by
  cases move with
  | @offer server _ _ m history _ _ offer =>
      cases server.answer history offer with
      | broken reason =>
          rw [Phase.answered]
          split <;> simp
      | _ => simp [Phase.answered]
  | _ => simp

theorem Runs.dialsOf_eq_nil {phase phase' : Phase} {events : List Event}
    (runs : Runs dialer plan timeout phase events phase') (h : phase ≠ .start) :
    dialsOf events = [] := by
  induction runs with
  | nil => rfl
  | cons move _ ih =>
      have hrest := ih move.ne_start
      cases move with
      | dial => exact absurd rfl h
      | _ => exact hrest

theorem execute_dials (dialer : Dialer) (plan : Plan) (timeout : Duration) :
    ∃ events, (execute dialer plan timeout).events =
        .dialed plan.route plan.target timeout :: events ∧ dialsOf events = [] := by
  obtain ⟨phase, hruns, hends⟩ := execute_runs dialer plan timeout
  generalize (execute dialer plan timeout).events = events at hruns ⊢
  cases hruns with
  | nil => cases hends
  | cons move rest =>
      cases move with
      | dial => exact ⟨_, rfl, rest.dialsOf_eq_nil (by simp)⟩

theorem execute_congr
    (h : dialer' plan.route plan.target timeout = dialer plan.route plan.target timeout) :
    execute dialer' plan timeout = execute dialer plan timeout := by
  rw [execute, h, execute]

end Execute

section Resolve

variable {settings : Settings} {d : Descriptor} {env : Environment} {fs : FileSystem}

theorem resolve_of_error {e : Error} (h : Plan.make settings d env fs = .error e)
    (dialer : Dialer) : resolve settings d env fs dialer = ⟨[], .error e⟩ := by
  rw [resolve, h]

theorem resolve_of_plan {plan : Plan} (h : Plan.make settings d env fs = .ok plan)
    (dialer : Dialer) :
    resolve settings d env fs dialer = execute dialer plan settings.dialTimeout := by
  rw [resolve, h]

end Resolve

/-- If a planning step fails, there is no attempt to dial, and the error is that of the first step
that fails; the error names its step. Otherwise there is one attempt, with what has been planned,
and the plan keeps the notices of its steps in their order. -/
theorem resolve_fails_fast (settings : Settings) (d : Descriptor) (env : Environment)
    (fs : FileSystem) (dialer : Dialer) :
    let run := resolve settings d env fs dialer
    ((Plan.failures settings d env fs).map Error.step).Sublist
        [.descriptor, .auth, .trust, .username, .transport] ∧
      (∀ e later, Plan.failures settings d env fs = e :: later →
        run.result = .error e ∧ dialsOf run.events = [] ∧
          ∀ dialer', resolve settings d env fs dialer' = run) ∧
      (Plan.failures settings d env fs = [] → ∃ plan, Plan.make settings d env fs = .ok plan ∧
        Plan.Collects settings d env fs plan ∧
        dialsOf run.events = [(plan.route, plan.target, settings.dialTimeout)] ∧
        (∀ path, d.value? "socket" = some path → path ≠ "" → plan.remoteSocket = path) ∧
        (d.get? "socket" = none → plan.remoteSocket = settings.remoteSocket) ∧
        ∀ dialer', dialer' plan.route plan.target settings.dialTimeout =
            dialer plan.route plan.target settings.dialTimeout →
          resolve settings d env fs dialer' = run) := by
  intro run
  refine ⟨Plan.step_of_failures settings d env fs, ?_, ?_⟩
  · intro e later hfails
    have herror := Plan.make_eq_error_iff.2 ⟨later, hfails⟩
    have hrun : run = ⟨[], .error e⟩ := resolve_of_error herror dialer
    refine ⟨by rw [hrun], by rw [hrun]; rfl, ?_⟩
    intro dialer'
    rw [resolve_of_error herror dialer', hrun]
  · intro hnone
    obtain ⟨-, plan, hplan, hcollects⟩ | ⟨e, later, hfails, -⟩ := Plan.make_cases settings d env fs
    · have hrun : run = execute dialer plan settings.dialTimeout := resolve_of_plan hplan dialer
      obtain ⟨events, hevents, hlater⟩ := execute_dials dialer plan settings.dialTimeout
      refine ⟨plan, hplan, hcollects, ?_, ?_, ?_, ?_⟩
      · rw [hrun, hevents]
        change (plan.route, plan.target, settings.dialTimeout) :: dialsOf events = _
        rw [hlater]
      · intro path hpath hne
        rw [hcollects.remoteSocket, (d.get?_eq_some_iff _ hne).2 hpath, Option.getD_some]
      · intro hsocket
        rw [hcollects.remoteSocket, hsocket, Option.getD_none]
      · intro dialer' hanswer
        rw [resolve_of_plan hplan, hrun, execute_congr hanswer]
    · simp [hfails] at hnone

/-- Of two steps that fail the first decides, and with all in order there is one attempt. -/
theorem resolve_of_two_failures :
    (∃ run, resolve {}
          { host := "h1", user := some "bob"
            params := [("sshauth", "kerberos"), ("no_verify", "")] }
          { vars := [("ALL_PROXY", "p1:1080")] } {} (fun _ _ _ => .ok .silent) = run ∧
        run.result = .error (.noUsableAuthMethod "kerberos") ∧ dialsOf run.events = []) ∧
      dialsOf (resolve {}
          { host := "h1", port := some "2222", user := some "bob", password := some "secret",
            params := [("sshauth", "agent,ssh-password"), ("no_verify", ""), ("socket", "/run/s")] }
          {} {} fun _ _ _ => .ok .silent).events =
        [(.direct, ⟨"h1", 2222⟩, .ofSeconds 10)] := by
  constructor
  · have hfails : Plan.failures {}
        { host := "h1", user := some "bob"
          params := [("sshauth", "kerberos"), ("no_verify", "")] }
        { vars := [("ALL_PROXY", "p1:1080")] } {} =
          [.noUsableAuthMethod "kerberos", .proxyAddressInvalid "p1:1080" "missing scheme"] := by
      rfl
    obtain ⟨hresult, hdials, -⟩ :=
      (resolve_fails_fast {} _ _ {} fun _ _ _ => .ok .silent).2.1 _ _ hfails
    exact ⟨_, rfl, hresult, hdials⟩
  · have hfails : Plan.failures {}
        { host := "h1", port := some "2222", user := some "bob", password := some "secret",
          params := [("sshauth", "agent,ssh-password"), ("no_verify", ""), ("socket", "/run/s")] }
        {} {} = [] := by
      rfl
    obtain ⟨plan, hplan, -, hdials, -⟩ :=
      (resolve_fails_fast {} _ _ {} fun _ _ _ => .ok .silent).2.2 hfails
    obtain rfl := Except.ok.inj (show Except.ok _ = Except.ok plan from hplan)
    exact hdials

end SshTunnel
