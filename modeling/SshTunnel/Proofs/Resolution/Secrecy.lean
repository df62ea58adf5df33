import SshTunnel.CommandLine.Report
import SshTunnel.Proofs.Resolution.FailFast

/-!
# Plans do not reveal the password

Descriptors that agree in all but the text of their passwords (`Descriptor.Agrees`) take every
planning step to the same end, up to the texts that the methods of authentication hold
(`Plan.make_agrees`). What is shown of a plan does not depend on those texts, so the plans of such
descriptors cannot be told apart by it (`Plan.reveals_no_password`).
-/

namespace SshTunnel

/-! ## Descriptors -/

/-- Two descriptors agree if they differ at most in the text of their passwords. The order of the
parameters does not matter. -/
structure Descriptor.Agrees (d d' : Descriptor) : Prop where
  host : d'.host = d.host
  port : d'.port = d.port
  user : d'.user = d.user
  hasPassword : d'.password.isSome = d.password.isSome
  value? : ∀ name, d'.value? name = d.value? name

namespace Descriptor.Agrees

variable {d d' : Descriptor}

theorem get? (h : d.Agrees d') (name : String) : d'.get? name = d.get? name := by
  rw [Descriptor.get?, h.value?, Descriptor.get?]

theorem has (h : d.Agrees d') (name : String) : d'.has name = d.has name := by
  rw [Descriptor.has, h.value?, Descriptor.has]

theorem sshPort (h : d.Agrees d') : d'.sshPort = d.sshPort := by
  rw [Descriptor.sshPort, h.port, Descriptor.sshPort]

theorem username? (h : d.Agrees d') : d'.username? = d.username? := by
  rw [Descriptor.username?, h.user, Descriptor.username?]

end Descriptor.Agrees

/-! ## Steps of planning -/

section Steps

variable {d d' : Descriptor}

theorem TrustPolicy.ofDescriptor_agrees (h : d.Agrees d') (env : Environment) (fs : FileSystem) :
    ofDescriptor d' env fs = ofDescriptor d env fs := by
  have hdisabled : isDisabled d' = isDisabled d := by
    rw [isDisabled, h.get?, h.has, isDisabled]
  simp only [ofDescriptor, hdisabled, h.get?, h.host]

theorem RemoteUser.resolve_agrees (h : d.Agrees d') (env : Environment) (fs : FileSystem) :
    resolve d' env fs = resolve d env fs := by
  simp only [resolve, fromConfig, h.username?, h.get?, h.host]

theorem Route.select_agrees (h : d.Agrees d') (env : Environment) (fs : FileSystem) :
    select d' env fs = select d env fs := by
  simp only [select, h.get?]

def AuthMethod.redacted : AuthMethod → AuthMethod
  | .password _ => .password Descriptor.redacted
  | m => m

@[simp] theorem AuthMethod.kind_redacted (m : AuthMethod) : m.redacted.kind = m.kind := by
  cases m <;> rfl

namespace Auth

/-- A name gives methods that differ in the text of a password at most, or the same notice. -/
theorem method_agrees (h : d.Agrees d') (env : Environment) (fs : FileSystem) (name : String) :
    (method d' env fs name).map AuthMethod.redacted =
      (method d env fs name).map AuthMethod.redacted := by
  simp only [method]
  cases AuthKind.ofName? name with
  | none => rfl
  | some kind =>
      cases kind with
      | agent => rfl
      | privateKey => simp only [privateKeyMethod, h.get?]
      | password =>
          have hhas := h.hasPassword
          cases hp : d.password <;> cases hp' : d'.password <;> simp_all [passwordMethod]
          rfl

theorem collect_agrees (h : d.Agrees d') (env : Environment) (fs : FileSystem)
    (present : List Notice) (names : List String) :
    ((collect d' env fs present names).1.map AuthMethod.redacted =
      (collect d env fs present names).1.map AuthMethod.redacted) ∧
      (collect d' env fs present names).2 = (collect d env fs present names).2 := by
  induction names generalizing present with
  | nil => exact ⟨rfl, rfl⟩
  | cons name names ih =>
      obtain ⟨n, hn', hn⟩ | ⟨m', m, hm', hm, hredacted⟩ :=
        map_eq_map_cases (method_agrees h env fs name)
      · simpa [collect, hn, hn'] using ih (present ++ [n])
      · obtain ⟨hmethods, hnotices⟩ := ih present
        simp [collect, hm, hm', hmethods, hnotices, hredacted]

theorem chain_agrees (h : d.Agrees d') (defaults : String) (env : Environment) (fs : FileSystem) :
    ((chain d' defaults env fs).1.map (·.map AuthMethod.redacted) =
      (chain d defaults env fs).1.map (·.map AuthMethod.redacted)) ∧
      (chain d' defaults env fs).2 = (chain d defaults env fs).2 := by
  have hnames : configured d' defaults = configured d defaults := by
    rw [configured, h.get?, configured]
  obtain ⟨hmethods, hnotices⟩ := collect_agrees h env fs [] (names (configured d defaults))
  have hnone : (collect d' env fs [] (names (configured d defaults))).1 = [] ↔
      (collect d env fs [] (names (configured d defaults))).1 = [] := by
    rw [← List.map_eq_nil_iff, hmethods, List.map_eq_nil_iff]
  simp only [chain, hnames, hnone]
  refine ⟨?_, hnotices⟩
  split
  · rfl
  · exact congrArg Except.ok hmethods

end Auth

end Steps

/-! ## Plans -/

namespace Plan

variable {settings : Settings} {d d' : Descriptor} {env : Environment} {fs : FileSystem}

def redacted (plan : Plan) : Plan :=
  { plan with auth := plan.auth.map AuthMethod.redacted }

@[simp] theorem summary_redacted (plan : Plan) : plan.redacted.summary = plan.summary := by
  simp [redacted, summary]

/-- Descriptors that agree are planned alike, up to the texts of passwords. -/
theorem make_agrees (h : d.Agrees d') (settings : Settings) (env : Environment)
    (fs : FileSystem) :
    (make settings d' env fs).map redacted = (make settings d env fs).map redacted := by
  obtain ⟨hauth, hnotices⟩ := Auth.chain_agrees h settings.authMethods env fs
  simp only [make, h.sshPort, h.host, h.get?, hnotices, TrustPolicy.ofDescriptor_agrees h,
    RemoteUser.resolve_agrees h, Route.select_agrees h]
  obtain ⟨e, he', he⟩ | ⟨methods', methods, hm', hm, hredacted⟩ := map_eq_map_cases hauth
  · rw [he, he']
  · rw [hm, hm']
    rcases d.sshPort with e | port
    · rfl
    rcases TrustPolicy.ofDescriptor d env fs with e | ⟨trust, notices⟩
    · rfl
    rcases (RemoteUser.resolve d env fs).1 with e | user
    · rfl
    rcases Route.select d env fs with e | route
    · rfl
    · simp [Except.map, redacted, hredacted, bind, Except.bind, pure, Except.pure]

/-- For descriptors that agree, either planning fails with the same error, or the plans are the
same up to the texts of passwords. No report of planning tells the descriptors apart. -/
theorem reveals_no_password (h : d.Agrees d') (settings : Settings) (env : Environment)
    (fs : FileSystem) :
    ((∃ e, make settings d env fs = .error e ∧ make settings d' env fs = .error e) ∨
      ∃ plan plan', make settings d env fs = .ok plan ∧ make settings d' env fs = .ok plan' ∧
        plan'.redacted = plan.redacted ∧ plan'.summary = plan.summary ∧
        plan'.trust.isVerifying = plan.trust.isVerifying) ∧
      ∀ style, CommandLine.Report.ofPlan style (make settings d' env fs) =
        CommandLine.Report.ofPlan style (make settings d env fs) := by
  obtain ⟨e, he', he⟩ | ⟨plan', plan, hplan', hplan, hredacted⟩ :=
    map_eq_map_cases (make_agrees h settings env fs)
  · exact ⟨.inl ⟨e, he, he'⟩, fun style => by rw [he, he']⟩
  · have hsummary : plan'.summary = plan.summary := by
      rw [← summary_redacted plan', hredacted, summary_redacted]
    have htrust : plan'.redacted.trust = plan.redacted.trust := by rw [hredacted]
    refine ⟨.inr ⟨plan, plan', hplan, hplan', hredacted, hsummary, congrArg _ htrust⟩, ?_⟩
    intro style
    rw [hplan, hplan', CommandLine.Report.ofPlan, CommandLine.Report.ofPlan, hsummary]

/-- Two passwords, where a warning is part of the plan. -/
theorem reveals_no_password_of_two_passwords :
    ∃ plan plan', make {}
          { host := "h1", user := some "bob", password := some "secret",
            params := [("sshauth", "agent,password"), ("no_verify", "")] } {} {} = .ok plan ∧
        make {}
          { host := "h1", user := some "bob", password := some "hunter2",
            params := [("no_verify", ""), ("sshauth", "agent,password")] } {} {} = .ok plan' ∧
      plan.auth = [.password "secret"] ∧ plan'.auth = [.password "hunter2"] ∧
      plan.notices.map (·.kind) = [.agentNotConfigured, .insecureHostKeys] ∧
      plan'.summary = plan.summary := by
  have hagrees : Descriptor.Agrees
      { host := "h1", user := some "bob", password := some "secret",
        params := [("sshauth", "agent,password"), ("no_verify", "")] }
      { host := "h1", user := some "bob", password := some "hunter2",
        params := [("no_verify", ""), ("sshauth", "agent,password")] } := by
    refine ⟨rfl, rfl, rfl, rfl, fun name => ?_⟩
    by_cases hname : name = "no_verify"
    · subst hname
      rfl
    · have hne : (name == "no_verify") = false := by simpa using hname
      simp [Descriptor.value?, List.lookup_cons, hne]
  obtain ⟨⟨e, he, -⟩ | ⟨plan, plan', hplan, hplan', -, hsummary, -⟩, -⟩ :=
    reveals_no_password hagrees {} {} {}
  · cases he
  · refine ⟨plan, plan', hplan, hplan', ?_, ?_, ?_, hsummary⟩
    · obtain rfl := Except.ok.inj (show Except.ok _ = Except.ok plan from hplan)
      rfl
    · obtain rfl := Except.ok.inj (show Except.ok _ = Except.ok plan' from hplan')
      rfl
    · obtain rfl := Except.ok.inj (show Except.ok _ = Except.ok plan from hplan)
      rfl

end Plan

end SshTunnel
