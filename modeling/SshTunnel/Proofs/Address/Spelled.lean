import SshTunnel.Proofs.Address.Agreement
import SshTunnel.Proofs.Descriptor.Written
import SshTunnel.Proofs.Text.Numeral
import SshTunnel.Proofs.Text.SameLetters

/-!
# Addresses of proxies are read as they were written

`UrlParts` is what the address of a proxy is to say, and `UrlParts.SpelledAs` tells in which ways it
can be put. An address in any of these ways is read into just these parts if its scheme is known, it
has a host and its port is one. Otherwise it is refused.
-/

namespace SshTunnel

/-! ## Schemes -/

namespace ProxyScheme

def names : ProxyScheme → List String
  | socks5 => ["socks5", "socks"]
  | socks5h => ["socks5h"]

def IsSpelled (scheme : ProxyScheme) (name : List Char) : Prop :=
  ∃ word ∈ scheme.names, Text.SameLetters name word.toList

instance (scheme : ProxyScheme) (name : List Char) : Decidable (scheme.IsSpelled name) :=
  inferInstanceAs (Decidable (∃ word ∈ scheme.names, Text.SameLetters name word.toList))

variable {name : List Char}

theorem isSpelled_socks5_iff : socks5.IsSpelled name ↔
    String.ofList (name.map Char.toLower) = "socks5" ∨
      String.ofList (name.map Char.toLower) = "socks" := by
  have hlower : "socks5".toList.map Char.toLower = "socks5".toList ∧
      "socks".toList.map Char.toLower = "socks".toList := by decide
  simp only [IsSpelled, names, List.mem_cons, List.not_mem_nil, or_false, exists_eq_or_imp,
    exists_eq_left, Text.SameLetters, hlower]
  simp only [← String.toList_inj, String.toList_ofList]

theorem isSpelled_socks5h_iff : socks5h.IsSpelled name ↔
    String.ofList (name.map Char.toLower) = "socks5h" := by
  have hlower : "socks5h".toList.map Char.toLower = "socks5h".toList := by decide
  simp only [IsSpelled, names, List.mem_cons, List.not_mem_nil, or_false, exists_eq_left,
    Text.SameLetters, hlower]
  simp only [← String.toList_inj, String.toList_ofList]

theorem ofName?_eq_some_iff {scheme : ProxyScheme} :
    ofName? name = some scheme ↔ scheme.IsSpelled name := by
  have hapart : socks5h.IsSpelled name → ¬ socks5.IsSpelled name := by
    rw [isSpelled_socks5_iff, isSpelled_socks5h_iff]
    intro h
    rw [h]
    decide
  rw [ofName?]
  simp only [← isSpelled_socks5_iff, ← isSpelled_socks5h_iff]
  by_cases h : socks5.IsSpelled name <;> by_cases h' : socks5h.IsSpelled name
  · exact absurd h (hapart h')
  all_goals cases scheme <;> simp [h, h']

end ProxyScheme

namespace ProxyAddress

open Text.Percent (Escapes)
open Descriptor (hostText portText splitUserinfo)

/-! ## Ways to write the parts -/

structure Login where
  user : String
  password : Option String := none

/-- What the address of a proxy is to say, in parts that do not run into each other. -/
structure UrlParts where
  scheme : List Char
  login : Option Login := none
  host : List Char
  port : Option (List Char) := none
  suffix : List Char := []
  scheme_plain : ¬ [':', '/', '/'] <:+: scheme
  host_plain : ∀ c ∈ host, c ∉ ['/', '?', '#', '@', '[', ']']
  port_plain : ∀ text, port = some text → ∀ c ∈ text, c ∉ ['/', '?', '#', '@', ':']
  suffix_start : suffix.head?.getD '/' ∈ ['/', '?', '#']

/-- Ways to write a user and a password, up to the at sign. -/
inductive WritesLogin : Option Login → List Char → Prop
  | none : WritesLogin none []
  | user {user : String} {u : List Char} (hu : Escapes false u (Text.Utf8.ofString user)) :
      WritesLogin (some { user }) (u ++ ['@'])
  | password {user p : String} {u v : List Char} (hu : Escapes false u (Text.Utf8.ofString user))
      (hv : Escapes false v (Text.Utf8.ofString p)) :
      WritesLogin (some { user, password := some p }) (u ++ ':' :: v ++ ['@'])

/-- Ways to write the port of a proxy. -/
inductive WritesPort : Option (List Char) → UInt16 → Prop
  | absent : WritesPort none 1080
  | empty : WritesPort (some []) 1080
  | decimal {port : UInt16} (hport : port ≠ 0) :
      WritesPort (some (Nat.toDigits 10 port.toNat)) port

def UrlParts.SpelledAs (u : UrlParts) (raw : String) : Prop :=
  ∃ login, WritesLogin u.login login ∧
    raw.toList = u.scheme ++ ':' :: '/' :: '/' ::
      (login ++ (hostText u.host ++ portText u.port) ++ u.suffix)

/-! ## The login -/

theorem decode_of_escapes {w : List Char} {text : String}
    (h : Escapes false w (Text.Utf8.ofString text)) : decode w = .ok text.toList := by
  rw [decode, Escapes.decode_eq (s := text.toList) h]
  rfl

theorem WritesLogin.endsAuthority_eq_false {login : Option Login} {w : List Char}
    (h : WritesLogin login w) : ∀ c ∈ w, endsAuthority c = false := by
  have hsub : ['/', '?', '#'] ⊆ ['/', '?', '#', '@', ':', '[', ']', '&', '=', ' '] := by decide
  have hwritten {u : List Char} {s : Bytes} (hu : Escapes false u s) :
      ∀ c ∈ u, endsAuthority c = false := fun c hc =>
    endsAuthority_eq_false_iff.2 fun hmem => hu.not_mem (hsub hmem) hc
  have hmarks : endsAuthority '@' = false ∧ endsAuthority ':' = false := by decide
  cases h with
  | none => simp
  | user hu => simpa [or_imp, forall_and, hmarks] using hwritten hu
  | password hu hv =>
      simpa [or_imp, forall_and, hmarks] using ⟨hwritten hu, hwritten hv⟩

theorem WritesLogin.readUserinfo_eq {login : Option Login} {w hostport : List Char}
    (h : WritesLogin login w) (hhost : '@' ∉ hostport) :
    readUserinfo (splitUserinfo (w ++ hostport)).1 =
        .ok ((login.map (·.user)).filter (· ≠ ""), login.bind (·.password)) ∧
      (splitUserinfo (w ++ hostport)).2 = hostport := by
  have huser (user : String) : (if user = "" then Option.none else some user) =
      (some user).filter (· ≠ "") := by
    by_cases huser : user = "" <;> simp [huser, Option.filter_some]
  cases h with
  | none =>
      rw [List.nil_append, Descriptor.splitUserinfo_of_not_mem hhost]
      exact ⟨rfl, rfl⟩
  | @user user w hu =>
      rw [List.append_assoc, List.singleton_append, Descriptor.splitUserinfo_append_cons hhost]
      refine ⟨?_, rfl⟩
      rw [readUserinfo, Text.splitOptional_of_not_mem (hu.not_mem (by simp))]
      simp [bind, Except.bind, pure, Except.pure, decode_of_escapes hu, huser]
  | @password user p w v hu hv =>
      rw [List.append_assoc, List.singleton_append, Descriptor.splitUserinfo_append_cons hhost]
      refine ⟨?_, rfl⟩
      rw [readUserinfo, Text.splitOptional_append_cons v (hu.not_mem (by simp))]
      simp [bind, Except.bind, pure, Except.pure, decode_of_escapes hu, decode_of_escapes hv, huser]

/-! ## The host and the port -/

theorem WritesPort.portOf {text : Option (List Char)} {port : UInt16} (h : WritesPort text port) :
    PortOf 1080 text port := by
  cases h with
  | absent => exact (portOf_nil rfl).2 rfl
  | empty => exact (portOf_nil rfl).2 rfl
  | decimal hport =>
      rw [PortOf, Option.getD_some, if_neg Nat.toDigits_ne_nil, Text.word16?_toDigits]
      simp [Option.filter_some, hport]

theorem not_portOf_of_word16? {text : List Char} (hne : text ≠ [])
    (h : ∀ n, Text.word16? text = some n → n = 0) (port : UInt16) :
    ¬ PortOf 1080 (some text) port := by
  rw [PortOf, Option.getD_some, if_neg hne, Option.filter_eq_some_iff]
  rintro ⟨hword, hport⟩
  simp [h port hword] at hport

namespace UrlParts

variable {u : UrlParts} {raw : String}

theorem names_hostText (u : UrlParts) :
    HostText.Names (hostText u.host ++ portText u.port) u.host u.port := by
  have hnot {c : Char} (hc : c ∈ ['/', '?', '#', '@', '[', ']']) : c ∉ u.host :=
    fun hmem => u.host_plain c hmem hc
  refine Descriptor.names_hostText
    (Descriptor.endsBeforePort_of_not_mem (hnot (by simp)) (hnot (by simp))) ?_
  exact fun text hport hmem => u.port_plain text hport ':' hmem (by simp)

theorem hostText_plain (u : UrlParts) :
    ∀ c ∈ hostText u.host ++ portText u.port, c ∉ ['/', '?', '#', '@'] := by
  have hsub : ['/', '?', '#', '@'] ⊆ ['/', '?', '#', '@', '[', ']'] ∧
      ['/', '?', '#', '@'] ⊆ ['/', '?', '#', '@', ':'] := by decide
  refine Descriptor.forall_mem_hostText (by simp) (fun c hc hmem => ?_)
    fun text hport c hc hmem => ?_
  · exact u.host_plain c hc (hsub.1 hmem)
  · exact u.port_plain text hport c hc (hsub.2 hmem)

/-! ## The whole address -/

theorem takeWhile_append_suffix (u : UrlParts) {s : List Char}
    (hs : ∀ c ∈ s, endsAuthority c = false) :
    (s ++ u.suffix).takeWhile (!endsAuthority ·) = s := by
  have hstart := u.suffix_start
  rw [takeWhile_authority_append _ hs]
  cases hsuffix : u.suffix with
  | nil => simp
  | cons c suffix =>
      have hc : endsAuthority c = true := decide_eq_true (by simpa [hsuffix] using hstart)
      simp [hc]

/-- An address that is written from parts is read iff its scheme is known, it has a host and its
port is one; and then these parts are read. -/
theorem parse_eq_ok_iff (h : u.SpelledAs raw) {a : ProxyAddress} :
    parse raw = .ok a ↔
      ∃ scheme port, scheme.IsSpelled u.scheme ∧ u.host ≠ [] ∧ PortOf 1080 u.port port ∧
        a = { scheme, host := String.ofList u.host, port,
              username := (u.login.map (·.user)).filter (· ≠ "")
              password := u.login.bind (·.password) } := by
  obtain ⟨login, hlogin, hraw⟩ := h
  have hhost : ∀ c ∈ hostText u.host ++ portText u.port, endsAuthority c = false ∧ c ≠ '@' :=
    fun c hc => plain_iff.2 (u.hostText_plain c hc)
  have hcut : (login ++ (hostText u.host ++ portText u.port) ++ u.suffix).takeWhile
      (!endsAuthority ·) = login ++ (hostText u.host ++ portText u.port) := by
    refine u.takeWhile_append_suffix fun c hc => ?_
    rcases List.mem_append.1 hc with hc | hc
    · exact hlogin.endsAuthority_eq_false c hc
    · exact (hhost c hc).1
  obtain ⟨hinfo, hrest⟩ := hlogin.readUserinfo_eq fun hmem => (hhost '@' hmem).2 rfl
  have hauthority {scheme : ProxyScheme} :
      readAuthority scheme (login ++ (hostText u.host ++ portText u.port)) = .ok a ↔
        ∃ port, u.host ≠ [] ∧ PortOf 1080 u.port port ∧
          a = { scheme, host := String.ofList u.host, port,
                username := (u.login.map (·.user)).filter (· ≠ "")
                password := u.login.bind (·.password) } := by
    rw [readAuthority_eq_ok_iff, hinfo, hrest]
    constructor
    · rintro ⟨host, text, port, username, password, hnames, hport, hne, hlogin, rfl⟩
      obtain ⟨rfl, rfl⟩ := hnames.unique u.names_hostText
      obtain ⟨rfl, rfl⟩ := Prod.mk.inj (Except.ok.inj hlogin)
      exact ⟨port, hne, readPort_eq_ok_iff.1 hport, rfl⟩
    · rintro ⟨port, hne, hport, rfl⟩
      exact ⟨_, _, port, _, _, u.names_hostText, readPort_eq_ok_iff.2 hport, hne, rfl, rfl⟩
  rw [parse, mapError_eq_ok_iff, hraw, read_append_scheme _ u.scheme_plain, hcut]
  cases hscheme : ProxyScheme.ofName? u.scheme with
  | none =>
      have hunknown (scheme : ProxyScheme) : ¬ scheme.IsSpelled u.scheme := by
        rw [← ProxyScheme.ofName?_eq_some_iff, hscheme]
        simp
      simp [hunknown]
  | some scheme =>
      change readAuthority scheme _ = .ok a ↔ _
      rw [hauthority]
      simp [← ProxyScheme.ofName?_eq_some_iff, hscheme]

end UrlParts

theorem exists_reason_of_parse_ne_ok {raw : String} (h : ∀ a, parse raw ≠ .ok a) :
    ∃ reason, parse raw = .error (.proxyAddressInvalid raw reason) := by
  rw [parse] at h ⊢
  cases hread : read raw.toList with
  | error fault => exact ⟨fault.message, rfl⟩
  | ok a => exact absurd (by rw [hread]; rfl) (h a)

/-- An address with a known scheme, a host and a port that is absent, empty or a number is read into
the parts that it was written from. With any other scheme, without a host, or with a port that is no
number but zero, it is refused. -/
theorem parse_of_spelledAs {u : UrlParts} {raw : String} (h : u.SpelledAs raw) :
    (∀ scheme port, scheme.IsSpelled u.scheme → u.host ≠ [] → WritesPort u.port port →
        parse raw = .ok {
          scheme, host := String.ofList u.host, port,
          username := (u.login.map (·.user)).filter (· ≠ "")
          password := u.login.bind (·.password) }) ∧
      ((∀ scheme : ProxyScheme, ¬ scheme.IsSpelled u.scheme) ∨ u.host = [] ∨
          (∃ text, u.port = some text ∧ text ≠ [] ∧ ∀ n, Text.word16? text = some n → n = 0) →
        ∃ reason, parse raw = .error (.proxyAddressInvalid raw reason)) := by
  constructor
  · intro scheme port hscheme hhost hport
    exact (UrlParts.parse_eq_ok_iff h).2 ⟨scheme, port, hscheme, hhost, hport.portOf, rfl⟩
  · intro hbad
    refine exists_reason_of_parse_ne_ok fun a ha => ?_
    obtain ⟨scheme, port, hscheme, hhost, hport, -⟩ := (UrlParts.parse_eq_ok_iff h).1 ha
    rcases hbad with hunknown | hempty | ⟨text, htext, hne, hword⟩
    · exact hunknown scheme hscheme
    · exact hhost hempty
    · rw [htext] at hport
      exact not_portOf_of_word16? hne hword port hport

/-- A scheme in mixed case, no user but a password with every kind of mark, an empty port, and marks
after the slash that ends the authority. A port that is one too large. -/
theorem parse_of_spelledAs_mixed :
    (∃ u : UrlParts,
      u.SpelledAs "SOCKS5h://:p%40ss%3A%2f%E2%82%AC@[fe80::1]:/x://y@z" ∧
      parse "SOCKS5h://:p%40ss%3A%2f%E2%82%AC@[fe80::1]:/x://y@z" =
        .ok { scheme := .socks5h, host := "fe80::1", port := 1080, password := some "p@ss:/€" }) ∧
    ∃ u : UrlParts, u.SpelledAs "socks5://proxy:65536" ∧
      ∃ reason, parse "socks5://proxy:65536" =
        .error (.proxyAddressInvalid "socks5://proxy:65536" reason) := by
  let u : UrlParts := {
    scheme := "SOCKS5h".toList
    login := some { user := "", password := some "p@ss:/€" }
    host := "fe80::1".toList
    port := some []
    suffix := "/x://y@z".toList
    scheme_plain := Text.not_infix_of_not_mem (by decide)
    host_plain := by simp
    port_plain := by simp
    suffix_start := by decide }
  have hpassword : Escapes false
      (Text.Percent.encode "p@ss:".toList ++ '%' :: '2' :: 'f' :: Text.Percent.encode "€".toList)
      (Text.Utf8.ofString "p@ss:/€") := by
    have hbytes : Text.Utf8.ofString "p@ss:/€" =
        Text.Utf8.ofString "p@ss:" ++ 0x2F :: Text.Utf8.ofString "€" := by decide
    rw [hbytes]
    have hslash : Escapes false ('%' :: '2' :: 'f' :: Text.Percent.encode "€".toList)
        (0x2F :: Text.Utf8.ofString "€") :=
      .group (x := 0x32) (y := 0x66) rfl rfl (Text.Percent.escapes_encode false "€".toList)
    exact (Text.Percent.escapes_encode false "p@ss:".toList).append hslash
  have hu : u.SpelledAs "SOCKS5h://:p%40ss%3A%2f%E2%82%AC@[fe80::1]:/x://y@z" :=
    ⟨_, .password .nil hpassword, by decide⟩
  let v : UrlParts := {
    scheme := "socks5".toList
    host := "proxy".toList
    port := some "65536".toList
    scheme_plain := Text.not_infix_of_not_mem (by decide)
    host_plain := by simp
    port_plain := by simp
    suffix_start := by decide }
  have hv : v.SpelledAs "socks5://proxy:65536" := ⟨_, .none, by decide⟩
  constructor
  · exact ⟨u, hu, (parse_of_spelledAs hu).1 .socks5h 1080 (by decide) (by decide) .empty⟩
  · have hword : Text.word16? "65536".toList = none := by decide
    have hnot (n : UInt16) (hn : Text.word16? "65536".toList = some n) : n = 0 :=
      absurd (hword.symm.trans hn) (by simp)
    exact ⟨v, hv, (parse_of_spelledAs hv).2 (.inr (.inr ⟨_, rfl, by decide, hnot⟩))⟩

end ProxyAddress

end SshTunnel
