import SshTunnel.Proofs.Address.Spelled

/-!
# Which printed addresses of proxies can be read back

An address is printed without its password, with the host in brackets if it holds a colon and the
user as it is. It is read back into the same address, but for the password, iff the user can stand
in an address as it is and the host ends before the port (`isReadBack_iff`).
-/

namespace SshTunnel

namespace ProxyAddress

open Text.Percent (HoldsGroup)
open Descriptor (hostText portText splitUserinfo EndsBeforePort)

/-! ## What is read -/

/-- What is true of every address that is read. -/
structure IsRead (a : ProxyAddress) : Prop where
  host_ne : a.host ≠ ""
  host_plain : ∀ c ∈ a.host.toList, endsAuthority c = false ∧ c ≠ '@'
  port_ne : a.port ≠ 0
  username_ne : a.username ≠ some ""

theorem decode_eq_ok_iff {s t : List Char} :
    decode s = .ok t ↔ Text.Percent.decode s = .ok t := by
  rw [decode, mapError_eq_ok_iff]

/-- A user that is read is not empty, and comes from what precedes the first colon. -/
theorem readUserinfo_eq_some {info : Option (List Char)} {user : String} {password : Option String}
    (h : readUserinfo info = .ok (some user, password)) :
    user ≠ "" ∧
      ∃ s, info = some s ∧ Text.Percent.decode (s.takeWhile (· ≠ ':')) = .ok user.toList := by
  cases info with
  | none => simp [readUserinfo] at h
  | some s =>
      simp only [readUserinfo, bind_eq_ok_iff] at h
      obtain ⟨name, hname, password, -, h⟩ := h
      obtain ⟨huser, -⟩ := Prod.mk.inj (Except.ok.inj h)
      split at huser
      · simp at huser
      · next hne =>
          obtain rfl : String.ofList name = user := Option.some.inj huser
          rw [Text.splitOptional_fst, decode_eq_ok_iff] at hname
          exact ⟨by simpa using hne, s, rfl, by rw [String.toList_ofList, hname]⟩

theorem isRead_of_parse {raw : String} {a : ProxyAddress} (h : parse raw = .ok a) : a.IsRead := by
  rw [parse, mapError_eq_ok_iff] at h
  obtain ⟨scheme, rest, h⟩ := exists_readAuthority_of_read h
  obtain ⟨host, text, port, username, password, hnames, hport, hne, hinfo, rfl⟩ :=
    readAuthority_eq_ok_iff.1 h
  have hrest := Descriptor.splitUserinfo_snd (rest.takeWhile (!endsAuthority ·))
  constructor
  · simpa using hne
  · intro c hc
    rw [String.toList_ofList] at hc
    have hmem := hnames.host_subset hc
    exact ⟨by simpa using List.mem_takeWhile_imp (hrest.2 hmem), fun hat => hrest.1 (hat ▸ hmem)⟩
  · exact (readPort_eq_ok_iff.1 hport).ne_zero (by decide)
  · rintro rfl
    exact (readUserinfo_eq_some hinfo).1 rfl

/-! ## What is printed -/

def userText : Option String → List Char
  | none => []
  | some user => user.toList ++ ['@']

def hostportText (a : ProxyAddress) : List Char :=
  hostText a.host.toList ++ portText (some (Nat.toDigits 10 a.port.toNat))

def authorityText (a : ProxyAddress) : List Char :=
  (userText a.username ++ a.hostportText).takeWhile (!endsAuthority ·)

variable {a : ProxyAddress}

theorem toList_text (a : ProxyAddress) :
    a.text.toList =
      a.scheme.name.toList ++ ':' :: '/' :: '/' :: (userText a.username ++ a.hostportText) := by
  have hhost : a.endpoint.text.toList = a.hostportText := by
    have hdecimal : (Text.decimal a.port.toNat).toList = Nat.toDigits 10 a.port.toNat := by
      simp [Text.decimal]
    by_cases hcolon : ':' ∈ a.host.toList <;>
      simp [endpoint, Target.text, hostPortText, hostportText, hostText, portText, hcolon, hdecimal]
  rw [text, String.toList_append, hhost]
  cases a.username <;> simp [userText]

theorem hostportText_plain (h : a.IsRead) :
    ∀ c ∈ a.hostportText, endsAuthority c = false ∧ c ≠ '@' := by
  refine Descriptor.forall_mem_hostText (by simp [endsAuthority]) h.host_plain ?_
  rintro text ⟨rfl⟩ c hc
  have hnot {x : Char} (hx : Text.isDigit x = false) : c ≠ x :=
    ne_of_mem_of_not_mem hc (Text.not_mem_toDigits _ hx)
  simp [endsAuthority, hnot (x := '/') (by decide), hnot (x := '?') (by decide),
    hnot (x := '#') (by decide), hnot (x := '@') (by decide)]

theorem parse_text_eq_ok_iff {b : ProxyAddress} :
    parse a.text = .ok b ↔ readAuthority a.scheme a.authorityText = .ok b := by
  have hname : ProxyScheme.ofName? a.scheme.name.toList = some a.scheme := by
    cases a.scheme <;> decide
  have hcolon : ':' ∉ a.scheme.name.toList := by
    cases a.scheme <;> decide
  rw [parse, mapError_eq_ok_iff, toList_text,
    read_append_scheme _ (Text.not_infix_of_not_mem hcolon), hname]
  rfl

/-- The printed address is read into the same address, but for the password. -/
def IsReadBack (a : ProxyAddress) : Prop :=
  ∃ b, parse a.text = .ok b ∧ b.scheme = a.scheme ∧ b.host = a.host ∧ b.port = a.port ∧
    b.username = a.username

/-! ## The host -/

theorem names_hostportText (h : EndsBeforePort a.host.toList) :
    HostText.Names a.hostportText a.host.toList (some (Nat.toDigits 10 a.port.toNat)) := by
  refine Descriptor.names_hostText h ?_
  rintro text ⟨rfl⟩
  exact Text.not_mem_toDigits _ (by decide)

theorem endsBeforePort_of_names_hostportText {text : Option (List Char)}
    (h : HostText.Names a.hostportText a.host.toList text) : EndsBeforePort a.host.toList :=
  Descriptor.endsBeforePort_of_names h (Text.not_mem_toDigits _ (by decide))

/-! ## The user -/

/-- A user name that can stand in an address as it is: nothing in it ends the user or would be
decoded. -/
def IsVerbatimUser (user : String) : Prop :=
  (∀ c ∈ user.toList, c ∉ [':', '/', '?', '#']) ∧ ¬ HoldsGroup (Text.Utf8.ofString user)

variable {user : String}

theorem IsVerbatimUser.endsAuthority_eq_false (h : IsVerbatimUser user) :
    ∀ c ∈ user.toList, endsAuthority c = false := by
  have hsub : ['/', '?', '#'] ⊆ [':', '/', '?', '#'] := by decide
  exact fun c hc => endsAuthority_eq_false_iff.2 fun hmem => h.1 c hc (hsub hmem)

theorem splitUserinfo_authorityText_none (hread : a.IsRead) (hname : a.username = none) :
    splitUserinfo a.authorityText = (none, a.hostportText) := by
  have hplain := hostportText_plain hread
  have hwhole : a.authorityText = a.hostportText := by
    rw [authorityText, hname, userText, List.nil_append]
    exact takeWhile_authority_eq_self fun c hc => (hplain c hc).1
  rw [hwhole, Descriptor.splitUserinfo_of_not_mem fun hmem => (hplain '@' hmem).2 rfl]

theorem splitUserinfo_authorityText_some (hread : a.IsRead) (hname : a.username = some user)
    (huser : ∀ c ∈ user.toList, endsAuthority c = false) :
    splitUserinfo a.authorityText = (some user.toList, a.hostportText) := by
  have hplain := hostportText_plain hread
  have hwhole : a.authorityText = user.toList ++ '@' :: a.hostportText := by
    have hrest : ∀ c ∈ '@' :: a.hostportText, endsAuthority c = false :=
      List.forall_mem_cons.2 ⟨by decide, fun c hc => (hplain c hc).1⟩
    rw [authorityText, hname, userText, List.append_assoc, List.singleton_append,
      takeWhile_authority_append _ huser, takeWhile_authority_eq_self hrest]
  rw [hwhole, Descriptor.splitUserinfo_append_cons fun hmem => (hplain '@' hmem).2 rfl]

theorem prefix_of_splitUserinfo_authorityText (hread : a.IsRead) (hname : a.username = some user)
    {info : List Char} (h : (splitUserinfo a.authorityText).1 = some info) :
    info <+: user.toList := by
  by_cases huser : ∀ c ∈ user.toList, endsAuthority c = false
  · rw [splitUserinfo_authorityText_some hread hname huser, Option.some.injEq] at h
    exact h ▸ List.prefix_rfl
  · -- the authority ends within the user
    have hcut : (user.toList.takeWhile (!endsAuthority ·)).length ≠ user.toList.length := by
      intro hlength
      have hall := (List.takeWhile_prefix _).eq_of_length hlength
      rw [List.takeWhile_eq_self_iff] at hall
      exact huser fun c hc => by simpa using hall c hc
    rw [authorityText, hname, userText, List.append_assoc, List.takeWhile_append,
      if_neg hcut] at h
    exact (Descriptor.splitUserinfo_fst_prefix h).trans (List.takeWhile_prefix _)

theorem isVerbatimUser_of_readUserinfo (hread : a.IsRead) (hname : a.username = some user)
    {password : Option String}
    (h : readUserinfo (splitUserinfo a.authorityText).1 = .ok (some user, password)) :
    IsVerbatimUser user := by
  obtain ⟨-, info, hinfo, hdecode⟩ := readUserinfo_eq_some h
  -- what is decoded is a start of the user, so it is all of it
  have hstart := prefix_of_splitUserinfo_authorityText hread hname hinfo
  have hwhole : info.takeWhile (· ≠ ':') = user.toList :=
    Text.Percent.eq_of_decode_of_prefix ((List.takeWhile_prefix _).trans hstart) hdecode
  have hinfo' : user.toList <+: info := hwhole ▸ List.takeWhile_prefix _
  refine ⟨fun c hc hmark => ?_, Text.Percent.decode_eq_self_iff.1 (hwhole ▸ hdecode)⟩
  have hcolon : c ≠ ':' := by
    have hmem : c ∈ info.takeWhile (· ≠ ':') := hwhole ▸ hc
    simpa using List.mem_takeWhile_imp hmem
  have hends : endsAuthority c = false := by
    have hmem : c ∈ a.authorityText :=
      (Descriptor.splitUserinfo_fst_prefix hinfo).subset (hinfo'.subset hc)
    simpa using List.mem_takeWhile_imp hmem
  rcases List.mem_cons.1 hmark with rfl | hmark
  · exact hcolon rfl
  · exact endsAuthority_eq_false_iff.1 hends hmark

theorem readUserinfo_of_isVerbatimUser (hne : user ≠ "") (h : IsVerbatimUser user) :
    readUserinfo (some user.toList) = .ok (some user, none) := by
  have hcolon : ':' ∉ user.toList := fun hmem => h.1 ':' hmem (by simp)
  have hdecode : decode user.toList = .ok user.toList :=
    decode_eq_ok_iff.2 (Text.Percent.decode_eq_self_iff.2 h.2)
  rw [readUserinfo, Text.splitOptional_of_not_mem hcolon]
  simp [bind, Except.bind, pure, Except.pure, hdecode, hne]

/-- The user is read as it was printed iff it can stand in an address as it is. -/
theorem exists_readUserinfo_authorityText_iff (hread : a.IsRead) :
    (∃ password, readUserinfo (splitUserinfo a.authorityText).1 = .ok (a.username, password)) ↔
      ∀ user, a.username = some user → IsVerbatimUser user := by
  cases hname : a.username with
  | none =>
      rw [splitUserinfo_authorityText_none hread hname]
      simp [readUserinfo]
  | some user =>
      constructor
      · rintro ⟨password, h⟩ user ⟨rfl⟩
        exact isVerbatimUser_of_readUserinfo hread hname h
      · intro h
        have hne : user ≠ "" := by
          rintro rfl
          exact hread.username_ne hname
        have huser : IsVerbatimUser user := h user rfl
        rw [splitUserinfo_authorityText_some hread hname huser.endsAuthority_eq_false]
        exact ⟨none, readUserinfo_of_isVerbatimUser hne huser⟩

theorem splitUserinfo_authorityText_snd (hread : a.IsRead)
    (h : ∀ user, a.username = some user → IsVerbatimUser user) :
    (splitUserinfo a.authorityText).2 = a.hostportText := by
  cases hname : a.username with
  | none => rw [splitUserinfo_authorityText_none hread hname]
  | some user =>
      rw [splitUserinfo_authorityText_some hread hname (h user hname).endsAuthority_eq_false]

/-! ## The whole address -/

/-- The print of an address that was read is read back iff the user can stand in it as it is and the
host ends before the port. -/
theorem isReadBack_iff {raw : String} (h : parse raw = .ok a) :
    a.IsReadBack ↔
      (∀ user, a.username = some user → IsVerbatimUser user) ∧ EndsBeforePort a.host.toList := by
  have hread := isRead_of_parse h
  have hport : readPort (some (Nat.toDigits 10 a.port.toNat)) = .ok a.port :=
    readPort_eq_ok_iff.2 (WritesPort.decimal hread.port_ne).portOf
  simp only [IsReadBack, parse_text_eq_ok_iff, readAuthority_eq_ok_iff]
  constructor
  · rintro ⟨b, ⟨host, text, port, username, password, hnames, -, -, hinfo, rfl⟩, -, hhost, -,
      huser⟩
    obtain rfl : username = a.username := huser
    have husers := (exists_readUserinfo_authorityText_iff hread).1 ⟨password, hinfo⟩
    rw [splitUserinfo_authorityText_snd hread husers] at hnames
    obtain rfl : host = a.host.toList := by
      rw [← hhost, String.toList_ofList]
    exact ⟨husers, endsBeforePort_of_names_hostportText hnames⟩
  · rintro ⟨husers, hends⟩
    obtain ⟨password, hinfo⟩ := (exists_readUserinfo_authorityText_iff hread).2 husers
    have hne : a.host.toList ≠ [] := by simpa using hread.host_ne
    rw [splitUserinfo_authorityText_snd hread husers]
    exact ⟨{ a with password },
      ⟨_, _, _, _, _, names_hostportText hends, hport, hne, hinfo, by simp⟩, rfl, rfl, rfl, rfl⟩

/-- An at sign in the user does no harm, as the last one ends the userinfo. -/
theorem isReadBack_of_at_in_user :
    ∃ a, parse "socks5://o%40ps:pw@[::1]:9050/x" = .ok a ∧ a.text = "socks5://o@ps@[::1]:9050" ∧
      a.IsReadBack := by
  have hparse : parse "socks5://o%40ps:pw@[::1]:9050/x" =
      .ok { scheme := .socks5, host := "::1", port := 9050, username := some "o@ps",
            password := some "pw" } :=
    toOption_eq_some_iff.1 (by decide +kernel)
  refine ⟨_, hparse, by decide, (isReadBack_iff hparse).2 ⟨?_, by decide⟩⟩
  rintro user ⟨rfl⟩
  have hgroup : ¬ HoldsGroup (Text.Utf8.ofString "o@ps") :=
    Text.Percent.not_holdsGroup_of_not_mem (by decide)
  exact ⟨by simp, hgroup⟩

/-- A slash in the user ends the authority, so that the user is taken for the host. -/
theorem not_isReadBack_of_slash_in_user :
    ∃ a, parse "socks5://a%2Fb@proxy:1080" = .ok a ∧ a.host = "proxy" ∧
      a.text = "socks5://a/b@proxy:1080" ∧
      parse a.text = .ok { scheme := .socks5, host := "a", port := 1080 } ∧ ¬ a.IsReadBack := by
  have hparse : parse "socks5://a%2Fb@proxy:1080" =
      .ok { scheme := .socks5, host := "proxy", port := 1080, username := some "a/b" } :=
    toOption_eq_some_iff.1 (by decide +kernel)
  have htext : parse "socks5://a/b@proxy:1080" =
      .ok { scheme := .socks5, host := "a", port := 1080 } :=
    toOption_eq_some_iff.1 (by decide +kernel)
  refine ⟨_, hparse, rfl, by decide, htext, ?_⟩
  rintro ⟨b, hb, -, hhost, -⟩
  obtain rfl := Except.ok.inj (htext.symm.trans hb)
  exact absurd hhost (by decide)

end ProxyAddress

end SshTunnel
