import SshTunnel.Proofs.Descriptor.Query
import SshTunnel.Proofs.Environment.Mentions
import SshTunnel.Route

/-!
# One rule decides the route

The rules for a route exclude each other: a control socket that the descriptor names, then a proxy
that the environment names, then the direct route. The first that applies decides, also when what it
names cannot be used: then there is an error, and no other route (`select_by_first_rule`). What a
rule further down would look at has no part in the result.
-/

namespace SshTunnel.Route

variable {d : Descriptor} {env : Environment} {fs : FileSystem}

theorem viaControl_cases (fs : FileSystem) (socket : String) :
    (fs.isSocket socket = .ok true ∧ viaControl fs socket = .ok (.control socket)) ∨
      (fs.isSocket socket ≠ .ok true ∧
        ∃ reason, viaControl fs socket = .error (.controlSocketUnavailable socket reason)) := by
  rw [viaControl]
  rcases fs.isSocket socket with cause | _ | _
  · exact .inr ⟨by simp, _, rfl⟩
  · exact .inr ⟨by simp, _, rfl⟩
  · exact .inl ⟨rfl, rfl⟩

theorem select_of_control {template : String} (h : d.get? "SSHControlPath" = some template) :
    select d env fs = viaControl fs (Template.expand env template) := by
  rw [select, h]

theorem select_of_proxyVar {raw : String} (h : d.get? "SSHControlPath" = none)
    (hraw : proxyVar? env = some raw) :
    select d env fs = (ProxyAddress.parse raw).map .proxy := by
  rw [select, h]
  simp only [hraw]

theorem select_of_nothing (h : d.get? "SSHControlPath" = none) (hnone : proxyVar? env = none) :
    select d env fs = .ok .direct := by
  rw [select, h]
  simp only [hnone]

theorem proxyVar?_eq_or (env : Environment) :
    proxyVar? env = (env.var "HTTP_PROXY").or (env.var "ALL_PROXY") := by
  rw [proxyVar?, List.findSome?_cons, List.findSome?_cons]
  cases env.var "HTTP_PROXY" with
  | some raw => rfl
  | none => cases env.var "ALL_PROXY" <;> rfl

/-- The direct route is for those who ask for nothing else. -/
theorem select_eq_direct_iff :
    select d env fs = .ok .direct ↔
      d.get? "SSHControlPath" = none ∧ env.var "HTTP_PROXY" = none ∧
        env.var "ALL_PROXY" = none := by
  have hnone : proxyVar? env = none ↔ env.var "HTTP_PROXY" = none ∧ env.var "ALL_PROXY" = none := by
    rw [proxyVar?_eq_or, Option.or_eq_none_iff]
  rw [← hnone]
  constructor
  · intro hdirect
    cases hcontrol : d.get? "SSHControlPath" with
    | some template =>
        rw [select_of_control hcontrol] at hdirect
        obtain ⟨-, hok⟩ | ⟨-, reason, herror⟩ := viaControl_cases fs (Template.expand env template)
        · simp [hok] at hdirect
        · simp [herror] at hdirect
    | none =>
        cases hraw : proxyVar? env with
        | some raw =>
            rw [select_of_proxyVar hcontrol hraw, map_eq_ok_iff] at hdirect
            obtain ⟨address, -, h⟩ := hdirect
            simp at h
        | none => exact ⟨rfl, rfl⟩
  · rintro ⟨hcontrol, hraw⟩
    exact select_of_nothing hcontrol hraw

/-- A control socket that the descriptor names is the route or an error, and besides the home
directory only the variables that its path mentions matter. If none is named the files do not
matter: the first proxy variable that is set is the route or the error of its address, whatever a
later one holds, and with neither set the route is direct. It is direct in no other case. -/
theorem select_by_first_rule (d : Descriptor) (env : Environment) (fs : FileSystem) :
    (∀ template, d.value? "SSHControlPath" = some template → template ≠ "" →
        let socket := Template.expand env template
        ((fs.isSocket socket = .ok true ∧ select d env fs = .ok (.control socket)) ∨
          (fs.isSocket socket ≠ .ok true ∧
            ∃ reason, select d env fs = .error (.controlSocketUnavailable socket reason))) ∧
        ∀ env' : Environment, env'.home = env.home →
          (∀ name, Template.Mentions template name → env'.var name = env.var name) →
            select d env' fs = select d env fs) ∧
      (d.value? "SSHControlPath" = none ∨ d.value? "SSHControlPath" = some "" →
        (∀ fs', select d env fs' = select d env fs) ∧
        (∀ raw, env.var "HTTP_PROXY" = some raw →
          select d env fs = (ProxyAddress.parse raw).map .proxy ∧
          ∀ env' : Environment, env'.var "HTTP_PROXY" = some raw →
            select d env' fs = select d env fs) ∧
        (∀ raw, env.var "HTTP_PROXY" = none → env.var "ALL_PROXY" = some raw →
          select d env fs = (ProxyAddress.parse raw).map .proxy) ∧
        (env.var "HTTP_PROXY" = none → env.var "ALL_PROXY" = none →
          select d env fs = .ok .direct)) ∧
      (select d env fs = .ok .direct ↔
        d.get? "SSHControlPath" = none ∧ env.var "HTTP_PROXY" = none ∧
          env.var "ALL_PROXY" = none) := by
  refine ⟨?_, ?_, select_eq_direct_iff⟩
  · intro template hvalue hne socket
    have hcontrol := (d.get?_eq_some_iff "SSHControlPath" hne).2 hvalue
    refine ⟨?_, ?_⟩
    · rw [select_of_control hcontrol]
      exact viaControl_cases fs socket
    · intro env' home hagree
      rw [select_of_control hcontrol, select_of_control hcontrol, Template.expand_congr home hagree]
  · intro hvalue
    have hcontrol : d.get? "SSHControlPath" = none := by
      rcases hvalue with hvalue | hvalue
      · simp [Descriptor.get?, hvalue]
      · simp [Descriptor.get?, hvalue, Option.filter]
    have hhttp : ∀ {env : Environment} {raw : String}, env.var "HTTP_PROXY" = some raw →
        proxyVar? env = some raw := by
      intro env raw h
      rw [proxyVar?_eq_or, h, Option.some_or]
    refine ⟨?_, ?_, ?_, ?_⟩
    · intro fs'
      simp only [select, hcontrol]
    · intro raw hraw
      refine ⟨select_of_proxyVar hcontrol (hhttp hraw), fun env' hraw' => ?_⟩
      rw [select_of_proxyVar hcontrol (hhttp hraw'), select_of_proxyVar hcontrol (hhttp hraw)]
    · intro raw hnone hraw
      apply select_of_proxyVar hcontrol
      rw [proxyVar?_eq_or, hnone, Option.none_or, hraw]
    · intro hnone hnone'
      exact select_eq_direct_iff.2 ⟨hcontrol, hnone, hnone'⟩

theorem isSocket_of_no_files : ({} : FileSystem).isSocket "run/s" = .error .notFound := by
  have hwalk : ({} : FileSystem).walk FileSystem.maxLinks [] ["run", "s"] = .error .notFound := by
    rw [FileSystem.walk]
    rfl
  have hsteps : FileSystem.steps ({} : FileSystem).workingDirectory "run/s" =
      ([], ["run", "s"]) := by decide
  have hfind : ({} : FileSystem).find "run/s" = .error .notFound := by
    rw [FileSystem.find, hsteps]
    simp only [hwalk]
    rfl
  rw [FileSystem.isSocket, hfind]
  rfl

/-- Neither a control socket that is not there nor a proxy without a scheme gives way to another
route. -/
theorem select_of_unusable :
    let env : Environment :=
      { vars := [("RUN", "run"), ("HTTP_PROXY", "p1:1080"), ("ALL_PROXY", "socks5://p2:1080")] }
    (∃ reason, select { host := "h1", params := [("SSHControlPath", "$RUN/s")] }
        { vars := [("RUN", "run")] } {} = .error (.controlSocketUnavailable "run/s" reason)) ∧
      select { host := "h1", params := [("SSHControlPath", "$RUN/s")] } env {} =
        select { host := "h1", params := [("SSHControlPath", "$RUN/s")] }
          { vars := [("RUN", "run")] } {} ∧
      select { host := "h1" } env {} =
        .error (.proxyAddressInvalid "p1:1080" "missing scheme") := by
  intro env
  obtain ⟨hcontrol, -, -⟩ := select_by_first_rule
    { host := "h1", params := [("SSHControlPath", "$RUN/s")] } { vars := [("RUN", "run")] } {}
  obtain ⟨hcases, hagree⟩ := hcontrol "$RUN/s" rfl (by decide)
  have hpath : Template.expand { vars := [("RUN", "run")] } "$RUN/s" = "run/s" := by
    decide +kernel
  rw [hpath] at hcases
  refine ⟨?_, ?_, ?_⟩
  · rcases hcases with ⟨hsocket, -⟩ | ⟨-, herror⟩
    · simp [isSocket_of_no_files] at hsocket
    · exact herror
  · apply hagree env rfl
    intro name hmentions
    have hread : Template.read "$RUN/s".toList =
        [.reference "RUN".toList, .char '/', .char 's'] := by decide +kernel
    have hmem := hmentions.read
    rw [hread] at hmem
    obtain rfl : name = "RUN" := String.toList_inj.1 (by simpa using hmem)
    rfl
  · obtain ⟨-, hproxy, -⟩ := select_by_first_rule { host := "h1" } env {}
    obtain ⟨-, hhttp, -, -⟩ := hproxy (.inl rfl)
    exact (hhttp "p1:1080" rfl).1

end SshTunnel.Route
