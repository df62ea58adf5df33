import Mathlib.Data.Fintype.EquivFin
import SshTunnel.Proofs.Descriptor.Query
import SshTunnel.Proofs.KnownHosts.Verdict

/-!
# When host keys are not verified

`Disables pairs` tells from the parameters of a URI whether host keys go unverified, and `Obeys`
says of a policy that it follows such a switch: it accepts every key with a notice that says so, or
it verifies, or there is no policy, and it never accepts keys because something else went wrong. A
policy obeys the query of what follows the scheme. It obeys the query of the URI itself just if the
first `://` does not stand in that query, or makes no difference there (`obeys_switchesOff_iff`).
-/

namespace SshTunnel

/-- Parameters switch the verification of host keys off: some name is `no_verify`, or the first
value of `known_hosts_verify` is `ignore`. -/
def Disables (pairs : List (List Char × List Char)) : Prop :=
  (∃ p ∈ pairs, Descriptor.Decodes p.1 "no_verify") ∨
    Descriptor.FirstValue pairs "known_hosts_verify" "ignore"

def SwitchesOff (uri : String) : Prop :=
  Disables (Descriptor.queryPairs (Text.trim uri.toList))

instance (pairs : List (List Char × List Char)) : Decidable (Disables pairs) :=
  inferInstanceAs (Decidable (_ ∨ _))

instance (uri : String) : Decidable (SwitchesOff uri) :=
  inferInstanceAs (Decidable (Disables _))

/-! ## A key that no store holds -/

namespace PublicKey

/-- A key whose modulus has one octet more than the number says. -/
def ofModulus (n : Nat) : PublicKey :=
  ⟨"ssh-rsa", [[3], 1 :: List.replicate n 0]⟩

theorem ofModulus_injective : Function.Injective ofModulus := by
  intro n m h
  have hfields : List.replicate n (0 : UInt8) = List.replicate m 0 := by simpa [ofModulus] using h
  simpa using congrArg List.length hfields

end PublicKey

namespace KnownHosts

theorem exists_of_check_eq_trusted {store : KnownHosts} {host : String} {port : UInt16}
    {key : PublicKey} (h : store.check host port key = .trusted) :
    ∃ e ∈ store.entries, e.key = key := by
  rw [check_eq_sup, sup_saying_eq, sup_judgement_eq_declared, declared] at h
  split at h
  · simp at h
  · split at h
    · next hplain =>
        obtain ⟨e, he, -, hkey⟩ := hplain
        exact ⟨e, List.mem_toFinset.1 (Finset.mem_filter.1 he).1, hkey⟩
    · split at h <;> simp at h

theorem exists_check_ne_trusted (store : KnownHosts) (host : String) (port : UInt16) :
    ∃ key, store.check host port key ≠ .trusted := by
  have hinf : Infinite PublicKey := Infinite.of_injective _ PublicKey.ofModulus_injective
  obtain ⟨key, hkey⟩ := Infinite.exists_notMem_finset (store.entries.map Entry.key).toFinset
  refine ⟨key, ?_⟩
  intro h
  obtain ⟨e, he, rfl⟩ := exists_of_check_eq_trusted h
  exact hkey (List.mem_toFinset.2 (List.mem_map_of_mem he))

end KnownHosts

/-! ## The policy of a URI -/

namespace TrustPolicy

/-- The policy of a descriptor follows a switch. If it is `off`, every key is accepted, and one
notice says so and names the host, whatever the environment and the files. If not, the policy
verifies against the known hosts that could be read, or there is no policy because they could
not. -/
structure Obeys (d : Descriptor) (env : Environment) (fs : FileSystem) (off : Prop) : Prop where
  of_off : off → ofDescriptor d env fs = .ok (.acceptAll,
    [⟨.insecureHostKeys, "host key verification disabled for " ++ d.host ++
      ": any host key will be accepted"⟩])
  of_not_off : ¬ off →
    let path := Template.expand env ((d.get? "knownhosts").getD defaultPath)
    (∃ store, KnownHosts.load fs path = .ok store ∧
        ofDescriptor d env fs = .ok (.verify store, [])) ∨
      ∃ fault, KnownHosts.load fs path = .error fault ∧
        ofDescriptor d env fs = .error (.trustStoreUnreadable path fault.message)
  accepts_all_iff : ∀ policy notices, ofDescriptor d env fs = .ok (policy, notices) →
    (policy = .acceptAll ↔ off) ∧ ((∀ host port key, policy.accepts host port key = true) ↔ off)

variable {d : Descriptor} {env : Environment} {fs : FileSystem} {uri : String} {p q : Prop}

/-- A policy does not obey two switches that differ. -/
theorem Obeys.iff (hp : Obeys d env fs p) (hq : Obeys d env fs q) : p ↔ q := by
  cases h : ofDescriptor d env fs with
  | ok made =>
      obtain ⟨hp', -⟩ := hp.accepts_all_iff made.1 made.2 h
      obtain ⟨hq', -⟩ := hq.accepts_all_iff made.1 made.2 h
      exact hp'.symm.trans hq'
  | error e =>
      have hnp : ¬ p := fun hp' => by simp [hp.of_off hp'] at h
      have hnq : ¬ q := fun hq' => by simp [hq.of_off hq'] at h
      exact iff_of_false hnp hnq

theorem ofDescriptor_of_not_disabled (hd : isDisabled d = false) (env : Environment)
    (fs : FileSystem) :
    let path := Template.expand env ((d.get? "knownhosts").getD defaultPath)
    (∃ store, KnownHosts.load fs path = .ok store ∧
        ofDescriptor d env fs = .ok (.verify store, [])) ∨
      ∃ fault, KnownHosts.load fs path = .error fault ∧
        ofDescriptor d env fs = .error (.trustStoreUnreadable path fault.message) := by
  intro path
  rw [ofDescriptor, hd, if_neg Bool.false_ne_true]
  cases hload : KnownHosts.load fs path with
  | ok store => exact .inl ⟨store, rfl, by simp only [path] at hload; simp only [hload]⟩
  | error fault => exact .inr ⟨fault, rfl, by simp only [path] at hload; simp only [hload]; rfl⟩

theorem not_accepts_all_verify (store : KnownHosts) :
    ¬ ∀ host port key, (verify store).accepts host port key = true := by
  intro hall
  obtain ⟨key, hkey⟩ := store.exists_check_ne_trusted "" 22
  exact hkey (by simpa [accepts] using hall "" 22 key)

theorem obeys_isDisabled (d : Descriptor) (env : Environment) (fs : FileSystem) :
    Obeys d env fs (isDisabled d = true) := by
  have hoff (hd : isDisabled d = true) :
      ofDescriptor d env fs = .ok (.acceptAll, [disabledNotice d.host]) := by
    rw [ofDescriptor, if_pos hd]
  refine ⟨hoff, fun hd => ofDescriptor_of_not_disabled (Bool.eq_false_iff.2 hd) env fs, ?_⟩
  intro policy notices hpolicy
  cases hd : isDisabled d with
  | true =>
      rw [hoff hd] at hpolicy
      obtain ⟨rfl, -⟩ : .acceptAll = policy ∧ _ := by simpa using hpolicy
      simp [accepts]
  | false =>
      rcases ofDescriptor_of_not_disabled hd env fs with ⟨store, -, hok⟩ | ⟨fault, -, herr⟩
      · rw [hok] at hpolicy
        obtain ⟨rfl, -⟩ : .verify store = policy ∧ _ := by simpa using hpolicy
        exact ⟨by simp, iff_of_false (not_accepts_all_verify store) Bool.false_ne_true⟩
      · rw [herr] at hpolicy
        simp at hpolicy

theorem isDisabled_iff (h : Descriptor.parse uri = .ok d) :
    isDisabled d = true ↔
      Disables (Descriptor.queryPairs (Descriptor.afterScheme (Text.trim uri.toList))) := by
  have hhas := Descriptor.has_of_parse h "no_verify"
  have hvalue := Descriptor.value?_of_parse h "known_hosts_verify" "ignore"
  have hget : d.get? "known_hosts_verify" = some "ignore" ↔
      d.value? "known_hosts_verify" = some "ignore" := Descriptor.get?_eq_some_iff d _ (by decide)
  rw [isDisabled, Bool.or_eq_true, decide_eq_true_eq, hhas, hget, hvalue, Disables, or_comm]

theorem obeys_of_parse (h : Descriptor.parse uri = .ok d) (env : Environment) (fs : FileSystem) :
    Obeys d env fs
      (Disables (Descriptor.queryPairs (Descriptor.afterScheme (Text.trim uri.toList)))) :=
  propext (isDisabled_iff h) ▸ obeys_isDisabled d env fs

theorem obeys_of_parse_iff (h : Descriptor.parse uri = .ok d) :
    Obeys d env fs p ↔
      (p ↔ Disables (Descriptor.queryPairs (Descriptor.afterScheme (Text.trim uri.toList)))) := by
  constructor
  · intro hp
    exact hp.iff (obeys_of_parse h env fs)
  · intro hp
    exact propext hp ▸ obeys_of_parse h env fs

/-- The policy of a URI obeys its query iff the first `://` does not stand in that query, or the
query of what follows it there switches verification off just as the query of the URI does. For if
it stands there, what follows it is taken for the URI, and the policy obeys the query of that. -/
theorem obeys_switchesOff_iff (h : Descriptor.parse uri = .ok d) (env : Environment)
    (fs : FileSystem) :
    (Obeys d env fs (SwitchesOff uri) ↔
      ∀ rest, Descriptor.MarkInQuery (Text.trim uri.toList) rest →
        (SwitchesOff uri ↔ Disables (Descriptor.queryPairs rest))) ∧
      ∀ rest, Descriptor.MarkInQuery (Text.trim uri.toList) rest →
        Obeys d env fs (Disables (Descriptor.queryPairs rest)) := by
  refine ⟨?_, fun rest hrest => ?_⟩
  · rw [obeys_of_parse_iff h]
    constructor
    · intro hsame rest hrest
      rwa [Descriptor.afterScheme_of_markInQuery hrest] at hsame
    · intro hsame
      rcases Descriptor.queryPairs_afterScheme (Text.trim uri.toList) with hquery | ⟨rest, hrest⟩
      · rw [hquery, SwitchesOff]
      · rw [Descriptor.afterScheme_of_markInQuery hrest]
        exact hsame rest hrest
  · rw [obeys_of_parse_iff h, Descriptor.afterScheme_of_markInQuery hrest]

/-- A name may be written with percent groups, and after other parameters. -/
theorem ofDescriptor_of_escaped_name :
    ∃ d, Descriptor.parse "ssh://h1/?keyfile=a&&no%5Fverify" = .ok d ∧
      ∀ (env : Environment) (fs : FileSystem), ofDescriptor d env fs = .ok (.acceptAll,
        [⟨.insecureHostKeys,
          "host key verification disabled for h1: any host key will be accepted"⟩]) := by
  have hparse : Descriptor.parse "ssh://h1/?keyfile=a&&no%5Fverify" =
      .ok { host := "h1", params := [("keyfile", "a"), ("no_verify", "")] } :=
    toOption_eq_some_iff.1 (by decide +kernel)
  have hoff : SwitchesOff "ssh://h1/?keyfile=a&&no%5Fverify" := by decide +kernel
  refine ⟨_, hparse, fun env fs => ((obeys_switchesOff_iff hparse env fs).1.2 ?_).of_off hoff⟩
  intro rest hrest
  obtain rfl := Descriptor.afterScheme_of_markInQuery hrest
  exact iff_of_true hoff (by decide +kernel)

/-- Of a URI in the value of a parameter, both the host and the parameters are taken, and a
parameter before it is lost. -/
theorem not_obeys_of_nested_uri :
    (∃ d, Descriptor.parse "kvm1/system?callback=http://evil.example/?no_verify" = .ok d ∧
      ¬ SwitchesOff "kvm1/system?callback=http://evil.example/?no_verify" ∧
      (∀ (env : Environment) (fs : FileSystem), ofDescriptor d env fs = .ok (.acceptAll,
        [⟨.insecureHostKeys,
          "host key verification disabled for evil.example: any host key will be accepted"⟩])) ∧
      ¬ Obeys d {} {} (SwitchesOff "kvm1/system?callback=http://evil.example/?no_verify")) ∧
    ∃ d, Descriptor.parse "kvm1?no_verify&socket=unix://run" = .ok d ∧
      SwitchesOff "kvm1?no_verify&socket=unix://run" ∧
      ¬ Obeys d {} {} (SwitchesOff "kvm1?no_verify&socket=unix://run") := by
  have hparse : Descriptor.parse "kvm1/system?callback=http://evil.example/?no_verify" =
      .ok { host := "evil.example", params := [("no_verify", "")] } :=
    toOption_eq_some_iff.1 (by decide +kernel)
  have hlost : Descriptor.parse "kvm1?no_verify&socket=unix://run" = .ok { host := "run" } :=
    toOption_eq_some_iff.1 (by decide +kernel)
  refine ⟨⟨_, hparse, by decide +kernel, fun env fs => ?_, ?_⟩,
    _, hlost, by decide +kernel, ?_⟩
  · exact (obeys_of_parse hparse env fs).of_off (by decide +kernel)
  · rw [obeys_of_parse_iff hparse]
    decide +kernel
  · rw [obeys_of_parse_iff hlost]
    decide +kernel

end TrustPolicy

end SshTunnel
