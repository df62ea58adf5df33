import SshTunnel.Proofs.Address.Reading

/-!
# Where descriptors and proxies read a host and a port alike

A text that is nothing but a host and a port can be the authority of a URI or of a proxy's address.
Both readers give the same host and port, or both refuse the text (`ReadAlike`), unless something
that is no port follows a host in brackets: the proxy's reader refuses that, the other overlooks it
(`readAlike_iff_not_trails`).
-/

namespace SshTunnel

open HostText

/-- No character is blank, ends an authority or ends a userinfo. -/
def IsBare (s : List Char) : Prop :=
  ∀ c ∈ s, Text.isBlank c = false ∧ c ∉ ['/', '?', '#', '@']

instance (s : List Char) : Decidable (IsBare s) :=
  List.decidableBAll _ s

theorem IsBare.not_mem {s : List Char} (h : IsBare s) {c : Char} (hc : c ∈ ['/', '?', '#', '@']) :
    c ∉ s :=
  fun hmem => (h c hmem).2 hc

/-! ## Ports -/

/-- The port that a text stands for: one of its own if no text or an empty one is there, else the
number that the text writes. -/
def PortOf (default : UInt16) (text : Option (List Char)) (port : UInt16) : Prop :=
  if text.getD [] = [] then port = default
  else (Text.word16? (text.getD [])).filter (· ≠ 0) = some port

theorem portOf_nil {default port : UInt16} {text : Option (List Char)} (h : text.getD [] = []) :
    PortOf default text port ↔ port = default := by
  rw [PortOf, if_pos h]

theorem portOf_cons {default port : UInt16} {c : Char} {text : List Char} :
    PortOf default (some (c :: text)) port ↔
      (Text.word16? (c :: text)).filter (· ≠ 0) = some port := by
  rw [PortOf, if_neg (by simp), Option.getD_some]

theorem PortOf.exists_of_default {default port : UInt16} {text : Option (List Char)}
    (h : PortOf default text port) (other : UInt16) :
    ∃ port', PortOf other text port' ∧
      if text.getD [] = [] then port = default ∧ port' = other else port' = port := by
  by_cases hempty : text.getD [] = []
  · rw [portOf_nil hempty] at h
    exact ⟨other, (portOf_nil hempty).2 rfl, by rw [if_pos hempty]; exact ⟨h, rfl⟩⟩
  · rw [PortOf, if_neg hempty] at h
    exact ⟨port, by rw [PortOf, if_neg hempty, h], by rw [if_neg hempty]⟩

theorem PortOf.ne_zero {default port : UInt16} {text : Option (List Char)}
    (h : PortOf default text port) (hdefault : default ≠ 0) : port ≠ 0 := by
  rw [PortOf] at h
  split at h
  · rwa [h]
  · simpa using (Option.filter_eq_some_iff.1 h).2

theorem Descriptor.sshPort_eq_ok_iff {d : Descriptor} {text : Option (List Char)} {port : UInt16}
    (h : d.port = text.map String.ofList) : d.sshPort = .ok port ↔ PortOf 22 text port := by
  have hdefault (hport : d.port.filter (· ≠ "") = none) : d.sshPort = .ok port ↔ port = 22 := by
    rw [sshPort, hport]
    exact ⟨fun hok => (Except.ok.inj hok).symm, fun hport => by rw [hport]; rfl⟩
  rcases text with - | - | ⟨c, text⟩
  · rw [portOf_nil rfl, hdefault (by simp [h])]
  · rw [portOf_nil rfl, hdefault (by simp [h])]
  · have hport : d.port.filter (· ≠ "") = some (String.ofList (c :: text)) := by simp [h]
    rw [portOf_cons, sshPort, hport]
    dsimp only
    rw [String.toList_ofList]
    cases (Text.word16? (c :: text)).filter (· ≠ 0) <;> simp

theorem ProxyAddress.readPort_eq_ok_iff {text : Option (List Char)} {port : UInt16} :
    readPort text = .ok port ↔ PortOf 1080 text port := by
  rcases text with - | - | ⟨c, text⟩
  · rw [portOf_nil rfl, readPort, Except.ok.injEq, eq_comm, defaultPort]
  · rw [portOf_nil rfl, readPort, Except.ok.injEq, eq_comm, defaultPort]
  · rw [portOf_cons, readPort]
    · cases (Text.word16? (c :: text)).filter (· ≠ 0) <;> simp
    · simp

/-! ## Both readers on bare texts -/

theorem Descriptor.parse_bare_iff {s : String} (hs : IsBare s.toList) {d : Descriptor} :
    parse ("ssh://" ++ s) = .ok d ↔
      ∃ host text, (Names s.toList host text ∨ (text = none ∧ Trails s.toList host)) ∧ host ≠ [] ∧
        d = { host := String.ofList host, port := text.map String.ofList } := by
  have hlist : ("ssh://" ++ s).toList = "ssh".toList ++ ':' :: '/' :: '/' :: s.toList := by simp
  have hrest : afterScheme (Text.trim ("ssh://" ++ s).toList) = s.toList := by
    rw [hlist, afterScheme_trim _ (by decide), Text.trimEnd_eq_self fun c hc => (hs c hc).1]
  have hauthority {uri : List Char} {d₀ : Descriptor} :
      readAuthority uri s.toList = .ok d₀ ↔
        ∃ host text, (Names s.toList host text ∨ (text = none ∧ Trails s.toList host)) ∧ host ≠ [] ∧
          d₀ = { host := String.ofList host, port := text.map String.ofList } := by
    rw [readAuthority_eq_ok_iff, Text.takeWhile_ne_eq_self (hs.not_mem (by simp)),
      splitUserinfo_of_not_mem (hs.not_mem (by simp))]
    simp only [splitHostPort_eq_ok_iff, readUserinfo, Except.ok.injEq, Prod.mk.injEq]
    constructor
    · rintro ⟨user, password, host, text, ⟨rfl, rfl⟩, hhost, hne, rfl⟩
      exact ⟨host, text, hhost, hne, rfl⟩
    · rintro ⟨host, text, hhost, hne, rfl⟩
      exact ⟨none, none, host, text, ⟨rfl, rfl⟩, hhost, hne, rfl⟩
  rw [parse_eq_ok_iff, hrest, Text.splitOptional_of_not_mem (hs.not_mem (by simp))]
  simp only [hauthority]
  constructor
  · rintro ⟨d₀, hd₀, hitems⟩
    obtain rfl : d₀ = d := Except.ok.inj hitems
    exact hd₀
  · intro hd
    exact ⟨d, hd, rfl⟩

theorem ProxyAddress.parse_bare_iff {s : String} (hs : IsBare s.toList) {a : ProxyAddress} :
    parse ("socks5://" ++ s) = .ok a ↔
      ∃ host text port, Names s.toList host text ∧ PortOf 1080 text port ∧ host ≠ [] ∧
        a = { scheme := .socks5, host := String.ofList host, port } := by
  have hlist : ("socks5://" ++ s).toList = "socks5".toList ++ ':' :: '/' :: '/' :: s.toList := by
    simp
  have hends : s.toList.takeWhile (!endsAuthority ·) = s.toList :=
    takeWhile_authority_eq_self fun c hc => (plain_iff.2 (hs c hc).2).1
  rw [parse, mapError_eq_ok_iff, hlist, read_append_scheme _ (by decide), hends]
  change readAuthority .socks5 s.toList = .ok a ↔ _
  rw [readAuthority_eq_ok_iff, Descriptor.splitUserinfo_of_not_mem (hs.not_mem (by simp))]
  simp only [readPort_eq_ok_iff, readUserinfo, Except.ok.injEq, Prod.mk.injEq]
  constructor
  · rintro ⟨host, text, port, username, password, hhost, hport, hne, ⟨rfl, rfl⟩, rfl⟩
    exact ⟨host, text, port, hhost, hport, hne, rfl⟩
  · rintro ⟨host, text, port, hhost, hport, hne, rfl⟩
    exact ⟨host, text, port, none, none, hhost, hport, hne, ⟨rfl, rfl⟩, rfl⟩

/-! ## Agreement -/

/-- Both readers refuse a text, or both read the same host from it. Then they also read the same
port where one is written, and each takes its own default where none is. -/
def ReadAlike (s : String) : Prop :=
  ((∀ d port, Descriptor.parse ("ssh://" ++ s) = .ok d → d.sshPort ≠ .ok port) ∧
      ∀ a, ProxyAddress.parse ("socks5://" ++ s) ≠ .ok a) ∨
    ∃ d port a, Descriptor.parse ("ssh://" ++ s) = .ok d ∧ d.sshPort = .ok port ∧
      ProxyAddress.parse ("socks5://" ++ s) = .ok a ∧ a.host = d.host ∧
      if d.port.getD "" = "" then port = 22 ∧ a.port = 1080 else a.port = port

variable {s : String}

theorem not_readAlike_of_trails (hs : IsBare s.toList) {host : List Char} (hne : host ≠ [])
    (h : Trails s.toList host) : ¬ ReadAlike s := by
  have hok : Descriptor.parse ("ssh://" ++ s) = .ok { host := String.ofList host } :=
    (Descriptor.parse_bare_iff hs).2 ⟨host, none, .inr ⟨rfl, h⟩, hne, rfl⟩
  have hrefused : ∀ a, ProxyAddress.parse ("socks5://" ++ s) ≠ .ok a := by
    intro a ha
    obtain ⟨_, _, _, hnames, -⟩ := (ProxyAddress.parse_bare_iff hs).1 ha
    exact h.not_names hnames
  rintro (⟨hrefused', -⟩ | ⟨_, _, a, -, -, ha, -⟩)
  · exact hrefused' _ 22 hok rfl
  · exact hrefused a ha

theorem readAlike_of_names (hs : IsBare s.toList) {host : List Char} {text : Option (List Char)}
    {port : UInt16} (hne : host ≠ []) (h : Names s.toList host text) (hport : PortOf 22 text port) :
    ReadAlike s := by
  have hok : Descriptor.parse ("ssh://" ++ s) =
      .ok { host := String.ofList host, port := text.map String.ofList } :=
    (Descriptor.parse_bare_iff hs).2 ⟨host, text, .inl h, hne, rfl⟩
  obtain ⟨port', hport', hports⟩ := hport.exists_of_default 1080
  have hok' : ProxyAddress.parse ("socks5://" ++ s) =
      .ok { scheme := .socks5, host := String.ofList host, port := port' } :=
    (ProxyAddress.parse_bare_iff hs).2 ⟨host, text, port', h, hport', hne, rfl⟩
  have hempty : (text.map String.ofList).getD "" = "" ↔ text.getD [] = [] := by
    cases text <;> simp
  refine .inr ⟨_, port, _, hok, (Descriptor.sshPort_eq_ok_iff rfl).2 hport, hok', rfl, ?_⟩
  simpa only [hempty] using hports

/-- The two readers agree on a bare text iff it does not put something that is no port after a host
in brackets. -/
theorem readAlike_iff_not_trails (hs : IsBare s.toList) :
    ReadAlike s ↔ ¬ ∃ host, host ≠ [] ∧ Trails s.toList host := by
  constructor
  · rintro halike ⟨host, hne, htrails⟩
    exact not_readAlike_of_trails hs hne htrails halike
  · intro hnot
    by_cases hnames :
        ∃ host text port, host ≠ [] ∧ Names s.toList host text ∧ PortOf 22 text port
    · obtain ⟨host, text, port, hne, hnames, hport⟩ := hnames
      exact readAlike_of_names hs hne hnames hport
    · left
      constructor
      · intro d port hd hport
        obtain ⟨host, text, h | ⟨-, htrails⟩, hne, rfl⟩ := (Descriptor.parse_bare_iff hs).1 hd
        · exact hnames ⟨host, text, port, hne, h, (Descriptor.sshPort_eq_ok_iff rfl).1 hport⟩
        · exact hnot ⟨host, hne, htrails⟩
      · intro a ha
        obtain ⟨host, text, port, h, hport, hne, -⟩ := (ProxyAddress.parse_bare_iff hs).1 ha
        obtain ⟨port', hport', -⟩ := hport.exists_of_default 22
        exact hnames ⟨host, text, port', hne, h, hport'⟩

/-- A plus sign and leading zeros in the port are no cause for a difference. -/
theorem readAlike_of_odd_port :
    IsBare "[fe80::1]:+002222".toList ∧ ReadAlike "[fe80::1]:+002222" := by
  have hbare : IsBare "[fe80::1]:+002222".toList := by decide
  refine ⟨hbare, (readAlike_iff_not_trails hbare).2 ?_⟩
  rintro ⟨host, -, htrails⟩
  have hlist : "[fe80::1]:+002222".toList =
      '[' :: ("fe80::1".toList ++ ']' :: ":+002222".toList) := by decide
  rw [hlist, trails_bracket_iff (by decide)] at htrails
  obtain ⟨-, c, t, hc, hafter⟩ := htrails
  exact hc (List.cons.inj hafter).1.symm

/-- A missing colon makes the port of a proxy's address a fault. In a URI the digits are overlooked,
and the default port is taken. -/
theorem not_readAlike_of_missing_colon :
    IsBare "[fe80::1]2222".toList ∧ ¬ ReadAlike "[fe80::1]2222" ∧
      (∃ d, Descriptor.parse ("ssh://" ++ "[fe80::1]2222") = .ok d ∧ d.host = "fe80::1" ∧
        d.sshPort = .ok 22) ∧
      ProxyAddress.parse ("socks5://" ++ "[fe80::1]2222") =
        .error (.proxyAddressInvalid "socks5://[fe80::1]2222"
          "unexpected \"2222\" after host") := by
  have hbare : IsBare "[fe80::1]2222".toList := by decide
  have hlist : "[fe80::1]2222".toList = '[' :: ("fe80::1".toList ++ ']' :: "2222".toList) := by
    decide
  have htrails : Trails "[fe80::1]2222".toList "fe80::1".toList := by
    rw [hlist, trails_bracket_iff (by decide)]
    exact ⟨rfl, '2', "222".toList, by decide, by decide⟩
  refine ⟨hbare, not_readAlike_of_trails hbare (by decide) htrails, ?_, ?_⟩
  · have hparse : Descriptor.parse ("ssh://" ++ "[fe80::1]2222") = .ok { host := "fe80::1" } :=
      toOption_eq_some_iff.1 (by decide +kernel)
    exact ⟨_, hparse, rfl, rfl⟩
  · rfl

end SshTunnel
