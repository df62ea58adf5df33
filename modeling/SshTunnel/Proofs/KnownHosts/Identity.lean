import SshTunnel.KnownHosts.Basic
import SshTunnel.Proofs.Address.Reading
import SshTunnel.Proofs.Glob.Lists
import SshTunnel.Proofs.Text.Numeral

/-!
# Identities of endpoints

A host on port 22 is recorded under its own name, on any other port in brackets and with the port.
The two forms can only be confused for a host whose name is itself of the second form, and no URI is
read into such a host (`Descriptor.isUnambiguous_of_parse`). So what is recorded for one endpoint is
not looked up for another, except that letter case does not count in the name
(`Descriptor.include_recorded_iff_of_parse`).
-/

namespace SshTunnel

/-- A host name that starts with a bracket contains none that closes it. -/
def IsUnambiguous (host : String) : Prop :=
  host.toList.head? ≠ some '[' ∨ ']' ∉ host.toList

theorem Descriptor.isUnambiguous_of_parse {uri : String} {d : Descriptor}
    (h : parse uri = .ok d) : IsUnambiguous d.host := by
  obtain ⟨hostport, host, port, hnames, -, hhost, -⟩ := exists_host_of_parse h
  rw [IsUnambiguous, hhost, String.toList_ofList]
  rcases hnames with hnames | ⟨-, htrails⟩
  · exact hnames.host_head_or
  · cases htrails with
    | intro hclosed => exact .inr hclosed

/-- The form in which an endpoint is recorded on any port but 22. -/
def recorded (host : String) (port : UInt16) : String :=
  s!"[{host}]:{port.toNat}"

theorem hostIdentity_of_ne {port : UInt16} (host : String) (h : port ≠ 22) :
    hostIdentity host port = recorded host port := by
  rw [hostIdentity, if_neg h, recorded]

theorem hostIdentity_ssh (host : String) : hostIdentity host 22 = host := rfl

theorem toList_recorded (host : String) (port : UInt16) :
    (recorded host port).toList =
      ('[' :: (host.toList ++ [']'])) ++ ':' :: Nat.toDigits 10 port.toNat := by
  have hform : recorded host port = "[" ++ host ++ "]:" ++ toString port.toNat := rfl
  simp [hform]

theorem toDigits_inj {n m : Nat} : Nat.toDigits 10 n = Nat.toDigits 10 m ↔ n = m := by
  refine ⟨fun h => ?_, fun h => by rw [h]⟩
  rw [← Nat.ofDigitChars_ten_toDigits (n := n), h, Nat.ofDigitChars_ten_toDigits]

/-- The last colon of a recorded form precedes the port, so both parts can be told from it. -/
theorem recorded_inj {host host' : String} {port port' : UInt16} :
    recorded host port = recorded host' port' ↔ host = host' ∧ port = port' := by
  have hcolon (n : Nat) : ':' ∉ Nat.toDigits 10 n := Text.not_mem_toDigits n (by decide)
  rw [← String.toList_inj, toList_recorded, toList_recorded,
    Text.last_cut_inj (hcolon _) (hcolon _), toDigits_inj,
    UInt16.toNat_inj, List.cons_inj_right, List.append_left_inj, String.toList_inj]

theorem not_isUnambiguous_recorded (host : String) (port : UInt16) :
    ¬ IsUnambiguous (recorded host port) := by
  rw [IsUnambiguous, toList_recorded]
  simp

/-- For an unambiguous host name the recorded form tells the endpoint. -/
theorem hostIdentity_eq_recorded_iff {host host' : String} {port port' : UInt16}
    (h : IsUnambiguous host) :
    hostIdentity host port = recorded host' port' ↔ port ≠ 22 ∧ host = host' ∧ port = port' := by
  by_cases hport : port = 22
  · subst hport
    rw [hostIdentity_ssh]
    refine ⟨?_, fun hne => absurd rfl hne.1⟩
    rintro rfl
    exact absurd h (not_isUnambiguous_recorded host' port')
  · rw [hostIdentity_of_ne host hport, recorded_inj]
    simp [hport]

theorem hostIdentity_inj {host host' : String} {port port' : UInt16} (h : IsUnambiguous host)
    (h' : IsUnambiguous host') :
    hostIdentity host port = hostIdentity host' port' ↔ host = host' ∧ port = port' := by
  by_cases hport : port' = 22
  · subst hport
    rw [hostIdentity_ssh]
    by_cases hport : port = 22
    · subst hport
      simp [hostIdentity_ssh]
    · rw [eq_comm, hostIdentity_of_ne host hport]
      refine ⟨?_, fun heq => absurd heq.2 hport⟩
      rintro rfl
      exact absurd h' (not_isUnambiguous_recorded host port)
  · rw [hostIdentity_of_ne host' hport, hostIdentity_eq_recorded_iff h]
    refine ⟨And.right, fun heq => ⟨?_, heq⟩⟩
    rw [heq.2]
    exact hport

/-! ## Letter case aside -/

theorem lower_recorded (host : String) (port : UInt16) :
    Text.lower (recorded host port).toList =
      ('[' :: (Text.lower host.toList ++ [']'])) ++ ':' :: Nat.toDigits 10 port.toNat := by
  have hopen : Text.IsDivider '[' := by decide
  have hclose : Text.IsDivider ']' := by decide
  have hcolon : Text.IsSettled [':'] := by decide
  have hdigits : Text.IsSettled (Nat.toDigits 10 port.toNat) :=
    Text.isSettled_of_isDigit fun _ hc => Text.isDigit_of_mem_toDigits hc
  have hform : (recorded host port).toList =
      [] ++ '[' :: (host.toList ++ ']' :: ([':'] ++ Nat.toDigits 10 port.toNat)) := by
    simp [toList_recorded]
  rw [hform, hopen.lower_append_cons, hclose.lower_append_cons,
    Text.lower_eq_self (hcolon.append hdigits)]
  simp

theorem lower_recorded_inj {host host' : String} {port port' : UInt16} :
    Text.lower (recorded host port).toList = Text.lower (recorded host' port').toList ↔
      Text.lower host.toList = Text.lower host'.toList ∧ port = port' := by
  have hcolon (n : Nat) : ':' ∉ Nat.toDigits 10 n := Text.not_mem_toDigits n (by decide)
  rw [lower_recorded, lower_recorded, Text.last_cut_inj (hcolon _) (hcolon _), toDigits_inj,
    UInt16.toNat_inj, List.cons_inj_right, List.append_left_inj]

theorem lower_ne_lower_recorded {host : String} (h : IsUnambiguous host) (host' : String)
    (port : UInt16) : Text.lower host.toList ≠ Text.lower (recorded host' port).toList := by
  have hopen : Text.IsDivider '[' := by decide
  have hclose : Text.IsDivider ']' := by decide
  intro heq
  rw [lower_recorded] at heq
  rcases h with hhead | hclosed
  · exact hhead (hopen.head?_of_head?_lower (by rw [heq]; rfl))
  · exact hclosed (hclose.mem_lower_iff.1 (by simp [heq]))

theorem lower_hostIdentity_eq_iff {host host' : String} {port port' : UInt16}
    (h : IsUnambiguous host) :
    Text.lower (recorded host' port').toList = Text.lower (hostIdentity host port).toList ↔
      port ≠ 22 ∧ port = port' ∧ Text.lower host.toList = Text.lower host'.toList := by
  by_cases hport : port = 22
  · subst hport
    rw [hostIdentity_ssh]
    exact iff_of_false (lower_ne_lower_recorded h host' port').symm fun hne => hne.1 rfl
  · rw [hostIdentity_of_ne host hport, eq_comm, lower_recorded_inj, and_comm (a := _ = _)]
    simp [hport]

namespace Descriptor

/-- Of descriptors that URIs are read into, the identities on two ports are the same only if the
hosts and the ports are. What is recorded for `[host]:port` is looked up for that host on that port
alone. -/
theorem hostIdentity_eq_iff_of_parse {uri uri' : String} {d d' : Descriptor}
    (h : parse uri = .ok d) (h' : parse uri' = .ok d') (port port' : UInt16) :
    (hostIdentity d.host port = hostIdentity d'.host port' ↔ d.host = d'.host ∧ port = port') ∧
      ∀ host p, hostIdentity d.host port = s!"[{host}]:{p.toNat}" → d.host = host ∧ port = p := by
  have hd := isUnambiguous_of_parse h
  refine ⟨hostIdentity_inj hd (isUnambiguous_of_parse h'), fun host p hrecorded => ?_⟩
  exact ((hostIdentity_eq_recorded_iff hd).1 hrecorded).2

/-- A literal record for `[host]:p` is for the descriptors whose host is `host` up to letter case,
on the port `p` alone, and on port 22 for none. -/
theorem include_recorded_iff_of_parse {uri : String} {d : Descriptor} (h : parse uri = .ok d)
    (port p : UInt16) {host : String} (hstar : '*' ∉ host.toList) (hany : '?' ∉ host.toList) :
    (KnownHosts.Hosts.patterns [s!"[{host}]:{p.toNat}"]).include (hostIdentity d.host port) = true ↔
      port ≠ 22 ∧ port = p ∧ Text.lower d.host.toList = Text.lower host.toList := by
  have hdigit {c : Char} (hc : Text.isDigit c = false) : c ∉ Nat.toDigits 10 p.toNat :=
    Text.not_mem_toDigits _ hc
  have hplain : ¬ Glob.IsNegated (recorded host p) := by simp [Glob.IsNegated, toList_recorded]
  have hstar' : '*' ∉ (recorded host p).toList := by
    simp [toList_recorded, hstar, hdigit (by decide : Text.isDigit '*' = false)]
  have hany' : '?' ∉ (recorded host p).toList := by
    simp [toList_recorded, hany, hdigit (by decide : Text.isDigit '?' = false)]
  rw [← lower_hostIdentity_eq_iff (isUnambiguous_of_parse h),
    ← Glob.listMatches_singleton_iff_of_literal _ hplain hstar' hany']
  rfl

/-- A bracket can be part of a host name, but it does not make one endpoint look like another. -/
theorem hostIdentity_of_bracket_in_name :
    ∃ d d', parse "ssh://[[kvm1]:2222/system" = .ok d ∧ parse "ssh://[kvm1]:2222" = .ok d' ∧
      d.host = "[kvm1" ∧ d'.host = "kvm1" ∧ d.sshPort = .ok 2222 ∧ d'.sshPort = .ok 2222 ∧
      hostIdentity d'.host 2222 = "[kvm1]:2222" ∧
      hostIdentity d.host 2222 ≠ hostIdentity d'.host 2222 ∧
      hostIdentity d.host 22 ≠ hostIdentity d'.host 2222 := by
  have hparse : parse "ssh://[[kvm1]:2222/system" =
      .ok { host := "[kvm1", port := some "2222" } := toOption_eq_some_iff.1 (by decide +kernel)
  have hparse' : parse "ssh://[kvm1]:2222" = .ok { host := "kvm1", port := some "2222" } :=
    toOption_eq_some_iff.1 (by decide +kernel)
  have hport : sshPort { host := "[kvm1", port := some "2222" } = .ok 2222 :=
    toOption_eq_some_iff.1 (by decide +kernel)
  have hport' : sshPort { host := "kvm1", port := some "2222" } = .ok 2222 :=
    toOption_eq_some_iff.1 (by decide +kernel)
  refine ⟨_, _, hparse, hparse', rfl, rfl, hport, hport', by decide +kernel, ?_, ?_⟩
  · rw [Ne, (hostIdentity_eq_iff_of_parse hparse hparse' 2222 2222).1]
    simp
  · rw [Ne, (hostIdentity_eq_iff_of_parse hparse hparse' 22 2222).1]
    simp

end Descriptor

end SshTunnel
