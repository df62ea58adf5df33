import SshTunnel.Proofs.Address.HostText
import SshTunnel.Proofs.Descriptor.Query

/-!
# How addresses are read

The URI of a descriptor and the address of a proxy are cut in the same places: the scheme ends at
the first `://`, the userinfo at the last at sign of the authority, and the rest names a host. These
lemmas take both readers apart there, so that nothing below them looks at their definitions.
-/

namespace SshTunnel

/-! ## Descriptors -/

namespace Descriptor

variable {uri rest : List Char} {d d' : Descriptor}

theorem trim_append_scheme (scheme rest : List Char) :
    Text.trim (scheme ++ ':' :: '/' :: '/' :: rest) =
      Text.trimStart scheme ++ ':' :: '/' :: '/' :: Text.trimEnd rest := by
  have hassoc (s : List Char) :
      s ++ ':' :: '/' :: '/' :: rest = (s ++ [':', '/']) ++ '/' :: rest := by simp
  rw [Text.trim, Text.trimStart_append_cons _ _ (by decide), hassoc,
    Text.trimEnd_append_cons _ _ (by decide)]
  simp

/-- Neither a scheme nor the blanks around a URI count. -/
theorem afterScheme_trim_of_not_infix {scheme : List Char} (rest : List Char)
    (h : ¬ [':', '/', '/'] <:+: scheme) :
    afterScheme (Text.trim (scheme ++ ':' :: '/' :: '/' :: rest)) = Text.trimEnd rest := by
  have hstart : ¬ [':', '/', '/'] <:+: Text.trimStart scheme := fun hwithin =>
    h (hwithin.trans (List.dropWhile_suffix Text.isBlank).isInfix)
  have hword := Text.splitWord_append (w := ['/', '/']) (Text.trimEnd rest) (by decide) hstart
  rw [afterScheme, trim_append_scheme]
  simp only [List.cons_append, List.nil_append] at hword
  rw [hword]

theorem afterScheme_trim {scheme : List Char} (rest : List Char) (h : ':' ∉ scheme) :
    afterScheme (Text.trim (scheme ++ ':' :: '/' :: '/' :: rest)) = Text.trimEnd rest :=
  afterScheme_trim_of_not_infix rest (Text.not_infix_of_not_mem h)

theorem afterScheme_trim_eq_trim {s : List Char} (h : ¬ [':', '/', '/'] <:+: s) :
    afterScheme (Text.trim s) = Text.trim s := by
  rw [afterScheme, Text.splitWord_eq_none fun hwithin => h (hwithin.trans (Text.trim_infix s))]

theorem splitUserinfo_append_cons {info hostport : List Char} (h : '@' ∉ hostport) :
    splitUserinfo (info ++ '@' :: hostport) = (some info, hostport) := by
  rw [splitUserinfo, Text.splitLast_eq_some_iff.2 ⟨h, rfl⟩]

theorem splitUserinfo_of_not_mem {hostport : List Char} (h : '@' ∉ hostport) :
    splitUserinfo hostport = (none, hostport) := by
  rw [splitUserinfo, Text.splitLast_eq_none_iff.2 h]

theorem splitUserinfo_snd (authority : List Char) :
    '@' ∉ (splitUserinfo authority).2 ∧ (splitUserinfo authority).2 ⊆ authority := by
  rw [splitUserinfo]
  cases hcut : Text.splitLast (· = '@') authority with
  | none => exact ⟨Text.splitLast_eq_none_iff.1 hcut, List.Subset.refl _⟩
  | some cut =>
      obtain ⟨hat, rfl⟩ := Text.splitLast_eq_some_iff.1 hcut
      exact ⟨hat, fun c hc => by simp [hc]⟩

theorem splitUserinfo_fst_prefix {authority info : List Char}
    (h : (splitUserinfo authority).1 = some info) : info <+: authority := by
  rw [splitUserinfo] at h
  cases hcut : Text.splitLast (· = '@') authority with
  | none => simp [hcut] at h
  | some cut =>
      obtain ⟨-, rfl⟩ := Text.splitLast_eq_some_iff.1 hcut
      simp only [hcut, Option.some.injEq] at h
      rw [h]
      exact List.prefix_append _ _

theorem readAuthority_eq_ok_iff :
    readAuthority uri rest = .ok d ↔
      ∃ user password host port,
        readUserinfo (splitUserinfo (rest.takeWhile (· ≠ '/'))).1 = .ok (user, password) ∧
        splitHostPort (splitUserinfo (rest.takeWhile (· ≠ '/'))).2 = .ok (host, port) ∧
        host ≠ [] ∧
        d = { host := String.ofList host, port := port.map String.ofList, user, password } := by
  rw [readAuthority, bind_eq_ok_iff]
  simp only [Prod.exists, bind_eq_ok_iff]
  constructor
  · rintro ⟨user, password, hinfo, host, port, hhost, h⟩
    split at h
    · simp at h
    · next hne => exact ⟨user, password, host, port, hinfo, hhost, hne, by simpa using h.symm⟩
  · rintro ⟨user, password, host, port, hinfo, hhost, hne, rfl⟩
    exact ⟨user, password, hinfo, host, port, hhost, by rw [if_neg hne]⟩

/-- Items of a query change the parameters alone. -/
theorem addItems_eq {items : List (List Char)} (h : addItems d items = .ok d') :
    d' = { d with params := d'.params } := by
  induction items generalizing d with
  | nil =>
      obtain rfl : d = d' := by simpa [addItems] using h
      rfl
  | cons item items ih =>
      obtain ⟨name, value, -, -, h⟩ := addItems_cons_eq_ok_iff.1 h
      rw [ih h, withParam]
      split <;> rfl

theorem parse_eq_ok_iff {uri : String} :
    parse uri = .ok d ↔
      ∃ d₀, readAuthority (Text.trim uri.toList)
          (Text.splitOptional '?' (afterScheme (Text.trim uri.toList))).1 = .ok d₀ ∧
        addItems d₀ (queryItems
          ((Text.splitOptional '?' (afterScheme (Text.trim uri.toList))).2.getD [])) = .ok d := by
  rw [parse, mapError_eq_ok_iff, parseTrimmed, bind_eq_ok_iff]

/-- The host of a descriptor that was read is named somewhere in the URI. -/
theorem exists_host_of_parse {uri : String} (h : parse uri = .ok d) :
    ∃ hostport host port,
      (HostText.Names hostport host port ∨ (port = none ∧ HostText.Trails hostport host)) ∧
      host ≠ [] ∧ d.host = String.ofList host ∧ d.port = port.map String.ofList := by
  obtain ⟨d₀, hd₀, hitems⟩ := parse_eq_ok_iff.1 h
  obtain ⟨user, password, host, port, -, hhost, hne, rfl⟩ := readAuthority_eq_ok_iff.1 hd₀
  rw [addItems_eq hitems]
  exact ⟨_, host, port, splitHostPort_eq_ok_iff.1 hhost, hne, rfl, rfl⟩

end Descriptor

/-! ## Addresses of proxies -/

namespace ProxyAddress

theorem endsAuthority_eq_false_iff {c : Char} :
    endsAuthority c = false ↔ c ∉ ['/', '?', '#'] :=
  decide_eq_false_iff_not

theorem plain_iff {c : Char} :
    (endsAuthority c = false ∧ c ≠ '@') ↔ c ∉ ['/', '?', '#', '@'] := by
  rw [endsAuthority_eq_false_iff]
  simp [and_assoc]

theorem takeWhile_authority_append {s : List Char} (t : List Char)
    (h : ∀ c ∈ s, endsAuthority c = false) :
    (s ++ t).takeWhile (!endsAuthority ·) = s ++ t.takeWhile (!endsAuthority ·) :=
  List.takeWhile_append_of_pos fun c hc => by simp [h c hc]

theorem takeWhile_authority_eq_self {s : List Char} (h : ∀ c ∈ s, endsAuthority c = false) :
    s.takeWhile (!endsAuthority ·) = s := by
  simpa using takeWhile_authority_append [] h

def readAuthority (scheme : ProxyScheme) (authority : List Char) : Except Fault ProxyAddress := do
  let (userinfo, hostport) := Descriptor.splitUserinfo authority
  let (host, port) ← splitHost hostport
  let port ← readPort port
  if host = [] then throw .noHost
  let (username, password) ← readUserinfo userinfo
  pure { scheme, host := String.ofList host, port, username, password }

theorem read_append_scheme {name : List Char} (rest : List Char)
    (h : ¬ [':', '/', '/'] <:+: name) :
    read (name ++ ':' :: '/' :: '/' :: rest) =
      (ProxyScheme.ofName? name).elim (.error (.unknownScheme name))
        (readAuthority · (rest.takeWhile (!endsAuthority ·))) := by
  have hword := Text.splitWord_append (w := ['/', '/']) rest (by decide) h
  simp only [List.cons_append, List.nil_append] at hword
  rw [read, hword]
  dsimp only
  cases ProxyScheme.ofName? name <;> rfl

theorem exists_readAuthority_of_read {s : List Char} {a : ProxyAddress} (h : read s = .ok a) :
    ∃ scheme, ∃ rest : List Char,
      readAuthority scheme (rest.takeWhile (!endsAuthority ·)) = .ok a := by
  rw [read] at h
  cases hword : Text.splitWord [':', '/', '/'] s with
  | none => simp [hword] at h
  | some cut =>
      obtain ⟨name, rest⟩ := cut
      simp only [hword] at h
      cases hscheme : ProxyScheme.ofName? name with
      | none => simp [hscheme] at h
      | some scheme =>
          simp only [hscheme] at h
          exact ⟨scheme, rest, h⟩

theorem readAuthority_eq_ok_iff {scheme : ProxyScheme} {authority : List Char} {a : ProxyAddress} :
    readAuthority scheme authority = .ok a ↔
      ∃ host text port username password,
        HostText.Names (Descriptor.splitUserinfo authority).2 host text ∧
        readPort text = .ok port ∧ host ≠ [] ∧
        readUserinfo (Descriptor.splitUserinfo authority).1 = .ok (username, password) ∧
        a = { scheme, host := String.ofList host, port, username, password } := by
  simp only [← splitHost_eq_ok_iff]
  rw [readAuthority]
  simp only [Prod.exists, bind_eq_ok_iff, check_bind_eq_ok_iff]
  constructor
  · rintro ⟨host, text, hhost, port, hport, hne, username, password, hinfo, h⟩
    exact ⟨host, text, port, username, password, hhost, hport, hne, hinfo, (Except.ok.inj h).symm⟩
  · rintro ⟨host, text, port, username, password, hhost, hport, hne, hinfo, rfl⟩
    exact ⟨host, text, hhost, port, hport, hne, username, password, hinfo, rfl⟩

end ProxyAddress

end SshTunnel
