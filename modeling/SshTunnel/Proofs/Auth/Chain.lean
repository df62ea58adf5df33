import Mathlib.Data.List.Forall2
import SshTunnel.Auth
import SshTunnel.Proofs.Except
import SshTunnel.Proofs.Text.Cuts

/-!
# Each entry of a chain has one outcome

An entry of a list of methods gives a method if what the method needs is there (`Gives`), and is
otherwise told of in a notice (`Lacks`). The chain holds the methods of the viable entries and the
notices those of the other ones, both in the order of the entries (`chain_partitions`).
-/

namespace SshTunnel.Auth

/-! ## Entries -/

/-- The text that lists the methods: the parameter of the descriptor unless it is absent or empty,
and then the default. -/
def Configures (d : Descriptor) (defaults text : String) : Prop :=
  (d.value? "sshauth" = some text ∧ text ≠ "") ∨
    ((d.value? "sshauth" = none ∨ d.value? "sshauth" = some "") ∧ text = defaults)

/-- The entries of a text are what stands between its commas, without the blanks around it. Blank
entries do not count. -/
def Lists (text : String) (entries : List String) : Prop :=
  ∃ pieces : List (List Char), pieces ≠ [] ∧ (∀ piece ∈ pieces, ',' ∉ piece) ∧
    text.toList = [','].intercalate pieces ∧
    entries = ((pieces.map Text.trim).filter (· ≠ [])).map String.ofList

theorem configures_configured (d : Descriptor) (defaults : String) :
    Configures d defaults (configured d defaults) := by
  rw [Configures, configured, Descriptor.get?]
  cases hvalue : d.value? "sshauth" with
  | none => simp
  | some text =>
      by_cases hempty : text = ""
      · simp [Option.filter, hempty]
      · simp [Option.filter, hempty]

theorem lists_names (text : String) : Lists text (names text) := by
  refine ⟨text.toList.splitOn ',', List.splitOn_ne_nil _ _, ?_, ?_, ?_⟩
  · intro piece hpiece
    exact Text.not_mem_of_mem_splitOn hpiece
  · exact (List.intercalate_splitOn ',').symm
  · rw [names, Text.splitEvery_eq_splitOn]

/-! ## Outcomes -/

section Outcomes

variable (d : Descriptor) (env : Environment) (fs : FileSystem)

def keyPath : String :=
  Template.expand env ((d.get? "keyfile").getD defaultKeyPath)

/-- An entry gives a method: what the method needs is there. -/
inductive Gives : String → AuthMethod → Prop
  | agent {socket : String} {listener : Listener} (named : env.var "SSH_AUTH_SOCK" = some socket)
      (connects : fs.connect socket = .ok listener) : Gives "agent" (.agent listener.toAgent)
  | privateKey {octets : Bytes} {key : PublicKey}
      (readable : fs.readBytes (keyPath d env) = .ok octets)
      (decodes : PrivateKey.publicOfBytes octets = .ok key) :
      Gives "privkey" (.privateKey (keyPath d env) key)
  | password {entry text : String} (name : entry = "ssh-password" ∨ entry = "password")
      (known : d.password = some text) : Gives entry (.password text)

/-- An entry gives no method: something is lacking, or there is no such method. The notice tells
which. -/
inductive Lacks : String → Notice → Prop
  | agentUnset (unset : env.var "SSH_AUTH_SOCK" = none) :
      Lacks "agent"
        ⟨.agentNotConfigured, "SSH_AUTH_SOCK is not set, skipping agent authentication"⟩
  | agentUnavailable {socket : String} {cause : OsError}
      (named : env.var "SSH_AUTH_SOCK" = some socket) (refused : fs.connect socket = .error cause) :
      Lacks "agent"
        ⟨.agentUnavailable, s!"unable to connect to SSH agent at {socket}: {cause.message}"⟩
  | keyUnreadable {cause : OsError} (unreadable : fs.readBytes (keyPath d env) = .error cause) :
      Lacks "privkey"
        ⟨.keyUnreadable, s!"failed to read ssh key {keyPath d env}: {cause.message}"⟩
  | keyUnparseable {octets : Bytes} {reason : String}
      (readable : fs.readBytes (keyPath d env) = .ok octets)
      (fails : PrivateKey.publicOfBytes octets = .error reason) :
      Lacks "privkey" ⟨.keyUnparseable, s!"failed to parse ssh key {keyPath d env}: {reason}"⟩
  | passwordMissing {entry : String} (name : entry = "ssh-password" ∨ entry = "password")
      (unknown : d.password = none) :
      Lacks entry ⟨.passwordMissing, "missing password in userinfo of URI authority section"⟩
  | unsupported {entry : String}
      (name : entry ∉ ["agent", "privkey", "ssh-password", "password"]) :
      Lacks entry ⟨.unknownAuthMethod, s!"unsupported auth method: {entry}"⟩

def Outcome (entry : String) : Except Notice AuthMethod → Prop
  | .ok m => Gives d env fs entry m
  | .error notice => Lacks d env fs entry notice

def Viable (entry : String) : Prop :=
  ∃ m, Gives d env fs entry m

end Outcomes

section Entries

variable {d : Descriptor} {env : Environment} {fs : FileSystem}

theorem method_agent : method d env fs "agent" = agentMethod env fs := rfl

theorem method_privateKey : method d env fs "privkey" = privateKeyMethod d env fs := rfl

theorem method_password {entry : String} (h : entry = "ssh-password" ∨ entry = "password") :
    method d env fs entry = passwordMethod d := by
  rcases h with rfl | rfl
  · rfl
  · rfl

theorem method_unsupported {entry : String}
    (h : entry ∉ ["agent", "privkey", "ssh-password", "password"]) :
    method d env fs entry =
      .error ⟨.unknownAuthMethod, s!"unsupported auth method: {entry}"⟩ := by
  have hnone : AuthKind.ofName? entry = none := by
    simp_all [AuthKind.ofName?]
  rw [method, hnone]

theorem outcome_agent : Outcome d env fs "agent" (agentMethod env fs) := by
  rw [agentMethod]
  split
  · next hunset => exact .agentUnset hunset
  · next socket hnamed =>
      cases hconnect : fs.connect socket with
      | ok listener => exact .agent hnamed hconnect
      | error cause => exact .agentUnavailable hnamed hconnect

theorem outcome_privateKey : Outcome d env fs "privkey" (privateKeyMethod d env fs) := by
  rw [privateKeyMethod, ← keyPath]
  cases hread : fs.readBytes (keyPath d env) with
  | error cause => exact .keyUnreadable hread
  | ok octets =>
      cases hdecode : PrivateKey.publicOfBytes octets with
      | ok key =>
          simp only [hdecode]
          exact .privateKey hread hdecode
      | error reason =>
          simp only [hdecode]
          exact .keyUnparseable hread hdecode

theorem outcome_password {entry : String} (h : entry = "ssh-password" ∨ entry = "password") :
    Outcome d env fs entry (passwordMethod d) := by
  rw [passwordMethod]
  split
  · next hknown => exact .password h hknown
  · next hunknown => exact .passwordMissing h hunknown

theorem outcome_method (entry : String) : Outcome d env fs entry (method d env fs entry) := by
  by_cases hname : entry ∈ ["agent", "privkey", "ssh-password", "password"]
  · rcases List.mem_cons.1 hname with rfl | hname
    · exact outcome_agent
    · rcases List.mem_cons.1 hname with rfl | hname
      · exact outcome_privateKey
      · have hpassword : entry = "ssh-password" ∨ entry = "password" := by simpa using hname
        rw [method_password hpassword]
        exact outcome_password hpassword
  · rw [method_unsupported hname]
    exact .unsupported hname

theorem eq_method_of_outcome {entry : String} {x : Except Notice AuthMethod}
    (h : Outcome d env fs entry x) : x = method d env fs entry := by
  cases x with
  | ok m =>
      cases h with
      | agent named connects =>
          rw [method_agent, agentMethod, named]
          simp only [connects]
      | privateKey readable decodes =>
          rw [method_privateKey, privateKeyMethod, ← keyPath]
          simp only [readable, decodes]
      | password name known => rw [method_password name, passwordMethod, known]
  | error notice =>
      cases h with
      | agentUnset unset => rw [method_agent, agentMethod, unset]
      | agentUnavailable named refused =>
          rw [method_agent, agentMethod, named]
          simp only [refused]
      | keyUnreadable unreadable =>
          rw [method_privateKey, privateKeyMethod, ← keyPath]
          simp only [unreadable]
      | keyUnparseable readable fails =>
          rw [method_privateKey, privateKeyMethod, ← keyPath]
          simp only [readable, fails]
      | passwordMissing name unknown => rw [method_password name, passwordMethod, unknown]
      | unsupported name => rw [method_unsupported name]

theorem outcome_iff {entry : String} {x : Except Notice AuthMethod} :
    Outcome d env fs entry x ↔ method d env fs entry = x := by
  constructor
  · exact fun h => (eq_method_of_outcome h).symm
  · rintro rfl
    exact outcome_method entry

theorem existsUnique_outcome (entry : String) : ∃! x, Outcome d env fs entry x :=
  ⟨_, outcome_method entry, fun _ h => eq_method_of_outcome h⟩

theorem viable_iff {entry : String} :
    Viable d env fs entry ↔ (method d env fs entry).toOption.isSome = true := by
  rw [Viable, Option.isSome_iff_exists]
  exact exists_congr fun m => by rw [toOption_eq_some_iff, ← outcome_iff, Outcome]

instance (entry : String) : Decidable (Viable d env fs entry) :=
  decidable_of_iff _ viable_iff.symm

/-! ## All entries -/

/-- What is collected of entries are the methods of the viable ones and the notices of the others,
in their order. -/
theorem collect_partitions (present : List Notice) (entries : List String) :
    List.Forall₂ (Gives d env fs) (entries.filter fun e => Viable d env fs e)
        (collect d env fs present entries).1 ∧
      ∃ notices, List.Forall₂ (Lacks d env fs) (entries.filter fun e => ¬ Viable d env fs e)
        notices ∧ (collect d env fs present entries).2 = present ++ notices := by
  induction entries generalizing present with
  | nil => exact ⟨.nil, [], .nil, (List.append_nil present).symm⟩
  | cons entry entries ih =>
      rw [collect]
      cases hmethod : method d env fs entry with
      | ok m =>
          have hviable : Viable d env fs entry := ⟨m, outcome_iff.2 hmethod⟩
          obtain ⟨hmethods, hnotices⟩ := ih present
          rw [List.filter_cons_of_pos (by simpa using hviable),
            List.filter_cons_of_neg (by simpa using hviable)]
          exact ⟨.cons (outcome_iff.2 hmethod) hmethods, hnotices⟩
      | error notice =>
          have hviable : ¬ Viable d env fs entry := by simp [viable_iff, hmethod, Except.toOption]
          obtain ⟨hmethods, notices, hnotices, heq⟩ := ih (present ++ [notice])
          rw [List.filter_cons_of_neg (by simpa using hviable),
            List.filter_cons_of_pos (by simpa using hviable)]
          refine ⟨hmethods, notice :: notices, .cons (outcome_iff.2 hmethod) hnotices, ?_⟩
          rw [heq, List.append_assoc, List.singleton_append]

end Entries

/-- The entries of the configured list have one outcome each. The chain holds the methods of the
viable ones, and looking for them adds the notices of the others to those that are present, both in
the order of the entries; none is lost. Without a viable entry there is no chain. -/
theorem chain_partitions (d : Descriptor) (defaults : String) (env : Environment)
    (fs : FileSystem) (present : List Notice) :
    let text := configured d defaults
    let entries := names text
    let viable := entries.filter fun e => Viable d env fs e
    let lacking := entries.filter fun e => ¬ Viable d env fs e
    Configures d defaults text ∧ Lists text entries ∧
      (∀ entry, ∃! x, Outcome d env fs entry x) ∧
      ∃ methods notices,
        List.Forall₂ (Gives d env fs) viable methods ∧
        List.Forall₂ (Lacks d env fs) lacking notices ∧
        methods.length + notices.length = entries.length ∧
        chain d defaults env fs present =
          (if viable = [] then .error (.noUsableAuthMethod text) else .ok methods,
            present ++ notices) := by
  intro text entries viable lacking
  obtain ⟨hmethods, notices, hnotices, heq⟩ :
      List.Forall₂ (Gives d env fs) viable (collect d env fs present entries).1 ∧
        ∃ notices, List.Forall₂ (Lacks d env fs) lacking notices ∧
          (collect d env fs present entries).2 = present ++ notices :=
    collect_partitions present entries
  refine ⟨configures_configured d defaults, lists_names text,
    fun entry => existsUnique_outcome entry, (collect d env fs present entries).1, notices,
    hmethods, hnotices, ?_, ?_⟩
  · rw [← hmethods.length_eq, ← hnotices.length_eq]
    simpa [viable, lacking] using
      (List.length_eq_length_filter_add (l := entries) fun e => Viable d env fs e).symm
  · have hnone : (collect d env fs present entries).1 = [] ↔ viable = [] := by
      rw [← List.length_eq_zero_iff, ← hmethods.length_eq, List.length_eq_zero_iff]
    simp only [chain, ← hnone, ← heq]
    rfl

/-- A method may be named twice, and an empty password is a password. -/
example : chain
    { host := "h1", password := some ""
      params := [("sshauth", "password, kerberos,, agent,ssh-password")] } "agent" {} {} =
      (.ok [.password "", .password ""],
        [⟨.unknownAuthMethod, "unsupported auth method: kerberos"⟩,
          ⟨.agentNotConfigured, "SSH_AUTH_SOCK is not set, skipping agent authentication"⟩]) := by
  rfl

end SshTunnel.Auth
