import SshTunnel.Plan
import SshTunnel.Proofs.Address.Reading
import SshTunnel.Proofs.Text.Percent
import SshTunnel.Proofs.Text.Quoted

/-!
# What is printed of an address with a password

`AroundPassword` is an address but for the text of its password. What is printed of an address that
is read does not depend on that text. What is printed of a refusal does, if the message quotes the
address: it does so for every refused address of a proxy, and for a URI that lacks a host
(`AroundPassword.printed_eq_iff`).
-/

namespace SshTunnel

structure AroundPassword where
  scheme : List Char
  user : List Char
  rest : List Char
  colon_not_mem_scheme : ':' ∉ scheme
  user_plain : ∀ c ∈ user, c ∉ [':', '/', '?', '#', '@']
  at_not_mem_rest : '@' ∉ rest

def IsVerbatim (password : String) : Prop :=
  ∀ c ∈ password.toList, c ∉ ['%', '/', '?', '#', '@']

instance (password : String) : Decidable (IsVerbatim password) :=
  List.decidableBAll _ password.toList

namespace AroundPassword

variable (f : AroundPassword)

def withInfo (info : List Char) : String :=
  String.ofList (f.scheme ++ ':' :: '/' :: '/' :: (info ++ '@' :: f.rest))

def url (password : String) : String :=
  f.withInfo (f.user ++ ':' :: password.toList)

/-- What a URI has in the place of a host and a port. -/
def hostport : List Char :=
  (Text.splitOptional '?' (Text.trimEnd f.rest)).1.takeWhile (· ≠ '/')

def query : List Char :=
  (Text.splitOptional '?' (Text.trimEnd f.rest)).2.getD []

/-- A URI is all right up to the host, and has none. -/
def LacksHost : Prop :=
  (∃ user, Text.Percent.decode f.user = .ok user) ∧
    (f.hostport = [] ∨ (∃ port, ':' ∉ port ∧ f.hostport = ':' :: port) ∨
      ∃ after, f.hostport = '[' :: ']' :: after)

variable {f} {password : String} {c : Char}

theorem toList_withInfo (info : List Char) : (f.withInfo info).toList =
    f.scheme ++ ':' :: '/' :: '/' :: (info ++ '@' :: f.rest) := by
  rw [withInfo, String.toList_ofList]

theorem at_not_mem_hostport : '@' ∉ f.hostport := by
  intro hmem
  have hbefore := (List.takeWhile_sublist _).subset hmem
  rw [Text.splitOptional_fst] at hbefore
  exact f.at_not_mem_rest (Text.mem_of_mem_trimEnd ((List.takeWhile_sublist _).subset hbefore))

theorem not_mem_user (hc : c ∈ [':', '/', '?', '#', '@']) : c ∉ f.user :=
  fun hmem => f.user_plain c hmem hc

/-- Neither a userinfo with the password nor one without it ends an authority. -/
theorem not_mem_info (h : IsVerbatim password) (hc : c ∈ ['/', '?', '#']) :
    c ∉ f.user ∧ c ∉ f.user ++ ':' :: password.toList := by
  have hsub : ['/', '?', '#'] ⊆ [':', '/', '?', '#', '@'] ∧
      ['/', '?', '#'] ⊆ ['%', '/', '?', '#', '@'] ∧ ':' ∉ ['/', '?', '#'] := by decide
  have huser : c ∉ f.user := not_mem_user (hsub.1 hc)
  have hpassword : c ∉ password.toList := fun hmem => h c hmem (hsub.2.1 hc)
  have hcolon : c ≠ ':' := fun heq => hsub.2.2 (heq ▸ hc)
  exact ⟨huser, by simp [huser, hpassword, hcolon]⟩

end AroundPassword

/-! ## Proxies -/

namespace ProxyAddress

variable {f : AroundPassword} {password : String}

theorem readUserinfo_password {user : List Char} (hcolon : ':' ∉ user) (h : IsVerbatim password) :
    readUserinfo (some (user ++ ':' :: password.toList)) =
      (readUserinfo (some user)).map fun info => (info.1, some password) := by
  have hdecode : decode password.toList = .ok password.toList := by
    rw [decode, Text.Percent.decode_eq_of_not_mem fun hmem => h _ hmem (by simp)]
    rfl
  rw [readUserinfo, readUserinfo, Text.splitOptional_append_cons _ hcolon,
    Text.splitOptional_of_not_mem hcolon]
  dsimp only
  cases decode user with
  | error fault => rfl
  | ok name => simp [bind, Except.bind, pure, Except.pure, hdecode, Except.map]

theorem readAuthority_password {scheme : ProxyScheme} {user hostport : List Char}
    (hcolon : ':' ∉ user) (hat : '@' ∉ hostport) (h : IsVerbatim password) :
    readAuthority scheme ((user ++ ':' :: password.toList) ++ '@' :: hostport) =
      (readAuthority scheme (user ++ '@' :: hostport)).map
        fun a => { a with password := some password } := by
  rw [readAuthority, readAuthority, Descriptor.splitUserinfo_append_cons hat,
    Descriptor.splitUserinfo_append_cons hat]
  dsimp only
  rw [readUserinfo_password hcolon h]
  rcases splitHost hostport with fault | ⟨host, text⟩
  · rfl
  rcases hport : readPort text with fault | port
  · simp [hport, bind, Except.bind, Except.map]
  by_cases hhost : host = []
  · simp [hport, hhost, bind, Except.bind, Except.map, throw, throwThe, MonadExceptOf.throw]
  rcases readUserinfo (some user) with fault | info
  · simp [hport, hhost, bind, Except.bind, Except.map]
  · simp [hport, hhost, bind, Except.bind, Except.map, pure, Except.pure]

theorem read_withInfo (f : AroundPassword) {info : List Char}
    (h : ∀ c ∈ ['/', '?', '#'], c ∉ info) :
    read (f.withInfo info).toList =
      (ProxyScheme.ofName? f.scheme).elim (.error (.unknownScheme f.scheme))
        (readAuthority · (info ++ '@' :: f.rest.takeWhile (!endsAuthority ·))) := by
  have hpass : ∀ c ∈ info, endsAuthority c = false := fun c hc =>
    endsAuthority_eq_false_iff.2 fun hmem => h c hmem hc
  have hat : ('@' :: f.rest).takeWhile (!endsAuthority ·) =
      '@' :: f.rest.takeWhile (!endsAuthority ·) := rfl
  rw [f.toList_withInfo,
    read_append_scheme _ (Text.not_infix_of_not_mem f.colon_not_mem_scheme),
    takeWhile_authority_append _ hpass, hat]

theorem read_url (f : AroundPassword) (h : IsVerbatim password) :
    read (f.url password).toList =
      (read (f.withInfo f.user).toList).map fun a => { a with password := some password } := by
  have hinfo {c : Char} (hc : c ∈ ['/', '?', '#']) := f.not_mem_info h hc
  have hat : '@' ∉ f.rest.takeWhile (!endsAuthority ·) := fun hmem =>
    f.at_not_mem_rest ((List.takeWhile_sublist _).subset hmem)
  rw [AroundPassword.url, read_withInfo f fun c hc => (hinfo hc).2,
    read_withInfo f fun c hc => (hinfo hc).1]
  cases ProxyScheme.ofName? f.scheme with
  | none => rfl
  | some scheme => exact readAuthority_password (f.not_mem_user (by simp)) hat h

end ProxyAddress

/-! ## Descriptors -/

namespace Descriptor

variable {f : AroundPassword} {password : String} {uri : List Char}

theorem readUserinfo_password {user : List Char} (hcolon : ':' ∉ user) (h : IsVerbatim password) :
    readUserinfo (some (user ++ ':' :: password.toList)) =
      (readUserinfo (some user)).map fun info => (info.1, some password) := by
  have hdecode : decode password.toList = .ok password.toList := by
    rw [decode, Text.Percent.decode_eq_of_not_mem fun hmem => h _ hmem (by simp)]
  rw [readUserinfo, readUserinfo, Text.splitOptional_append_cons _ hcolon,
    Text.splitOptional_of_not_mem hcolon]
  dsimp only
  by_cases huser : user = []
  · simp [huser, bind, Except.bind, pure, Except.pure, hdecode, Except.map]
  · cases decode user with
    | error fault => simp [huser, bind, Except.bind, Except.map]
    | ok name => simp [huser, bind, Except.bind, pure, Except.pure, hdecode, Except.map]

theorem exists_readUserinfo_iff {user : List Char} (hcolon : ':' ∉ user) :
    (∃ info, readUserinfo (some user) = .ok info) ↔
      ∃ name, Text.Percent.decode user = .ok name := by
  rw [readUserinfo, Text.splitOptional_of_not_mem hcolon]
  dsimp only
  by_cases huser : user = []
  · simp [huser, bind, Except.bind, pure, Except.pure, Text.Percent.decode_eq_of_not_mem]
  · simp only [huser, decode]
    cases Text.Percent.decode user <;> simp [bind, Except.bind, pure, Except.pure]

theorem addItems_password (d : Descriptor) (password : Option String) (items : List (List Char)) :
    addItems { d with password } items =
      (addItems d items).map fun d => { d with password } := by
  induction items generalizing d with
  | nil => rfl
  | cons item items ih =>
      have hparam (name value : String) : ({ d with password } : Descriptor).withParam name value =
          { d.withParam name value with password } := by
        rw [withParam, withParam]
        change (if d.has name then _ else _) = _
        split <;> rfl
      rw [addItems, addItems]
      cases readPair item with
      | error fault => rfl
      | ok pair =>
          change addItems (({ d with password } : Descriptor).withParam pair.1 pair.2) items = _
          rw [hparam, ih]
          rfl

def readRest (f : AroundPassword) (uri : List Char) (login : Option String × Option String) :
    Except Fault Descriptor := do
  let (host, port) ← splitHostPort f.hostport
  if host = [] then .error (.noHost uri)
  else
    addItems { host := String.ofList host, port := port.map String.ofList,
               user := login.1, password := login.2 } (queryItems f.query)

theorem parseTrimmed_withInfo (f : AroundPassword) {info : List Char}
    (h : ∀ c ∈ ['/', '?', '#'], c ∉ info) :
    parseTrimmed (Text.trim (f.withInfo info).toList) =
      readUserinfo (some info) >>= readRest f (Text.trim (f.withInfo info).toList) := by
  have hrest : afterScheme (Text.trim (f.withInfo info).toList) =
      (info ++ ['@']) ++ Text.trimEnd f.rest := by
    rw [f.toList_withInfo, afterScheme_trim _ f.colon_not_mem_scheme,
      Text.trimEnd_append_cons _ _ (by decide), List.append_assoc, List.singleton_append]
  have hquestion : '?' ∉ info ++ ['@'] := by
    simp [h '?' (by simp)]
  have hslash : '/' ∉ info ++ ['@'] := by
    simp [h '/' (by simp)]
  have hcut : (Text.splitOptional '?' (Text.trimEnd f.rest)).1.takeWhile (· ≠ '/') =
      f.hostport := rfl
  rw [parseTrimmed, hrest, Text.splitOptional_append _ hquestion]
  dsimp only
  rw [readAuthority, Text.takeWhile_ne_append _ hslash, hcut, List.append_assoc,
    List.singleton_append, splitUserinfo_append_cons f.at_not_mem_hostport]
  dsimp only
  rcases readUserinfo (some info) with fault | ⟨user, password⟩
  · rfl
  change _ = readRest f _ (user, password)
  rw [readRest]
  rcases splitHostPort f.hostport with fault | ⟨host, port⟩
  · rfl
  by_cases hhost : host = []
  · simp [hhost, bind, Except.bind]
  · simp [hhost, bind, Except.bind, AroundPassword.query]

/-- A URI that lacks a host is refused, and the refusal holds the URI. -/
theorem parseTrimmed_url_of_lacksHost (h : IsVerbatim password) (hf : f.LacksHost) :
    parseTrimmed (Text.trim (f.url password).toList) =
      .error (.noHost (Text.trim (f.url password).toList)) := by
  have hcolon : ':' ∉ f.user := f.not_mem_user (by simp)
  obtain ⟨info, hinfo⟩ := (exists_readUserinfo_iff hcolon).2 hf.1
  obtain ⟨port, hport⟩ := exists_splitHostPort_nil_iff.2 hf.2
  rw [AroundPassword.url, parseTrimmed_withInfo f fun c hc => (f.not_mem_info h hc).2,
    readUserinfo_password hcolon h, hinfo]
  change readRest f _ (info.1, some password) = _
  rw [readRest, hport]
  rfl

theorem parseTrimmed_url (h : IsVerbatim password) (hf : ¬ f.LacksHost) :
    parseTrimmed (Text.trim (f.url password).toList) =
      (parseTrimmed (Text.trim (f.withInfo f.user).toList)).map
        fun d => { d with password := some password } := by
  have hcolon : ':' ∉ f.user := f.not_mem_user (by simp)
  rw [AroundPassword.url, parseTrimmed_withInfo f fun c hc => (f.not_mem_info h hc).2,
    parseTrimmed_withInfo f fun c hc => (f.not_mem_info h hc).1, readUserinfo_password hcolon h]
  rcases hinfo : readUserinfo (some f.user) with fault | info
  · rfl
  change readRest f _ (info.1, some password) = (readRest f _ info).map _
  rw [readRest, readRest]
  rcases hplace : splitHostPort f.hostport with fault | ⟨host, port⟩
  · rfl
  have hhost : host ≠ [] := by
    rintro rfl
    exact hf ⟨(exists_readUserinfo_iff hcolon).1 ⟨info, hinfo⟩,
      exists_splitHostPort_nil_iff.1 ⟨port, hplace⟩⟩
  simp [bind, Except.bind, hhost, ← addItems_password]

end Descriptor

/-! ## What is printed -/

/-- What is printed of a proxy's address that is read, as text, for debugging and as JSON, or the
message of the error. -/
def ProxyAddress.printed (raw : String) : Except String (String × String × String) :=
  match parse raw with
  | .ok a => .ok (a.text, a.describe, a.toJson.render)
  | .error e => .error e.message

/-- What is printed of a descriptor that is read for debugging, or the message of the error. -/
def Descriptor.printed (uri : String) : Except String String :=
  match parse uri with
  | .ok d => .ok d.describe
  | .error e => .error e.message

theorem message_proxyAddressInvalid_inj {address address' reason : String} :
    (Error.proxyAddressInvalid address reason).message =
      (Error.proxyAddressInvalid address' reason).message ↔ address = address' := by
  have hform (address : String) : (Error.proxyAddressInvalid address reason).message =
      "transport" ++ ": " ++
        ("invalid proxy address " ++ Text.quoted address ++ ": " ++ reason) := rfl
  rw [hform, hform, String.append_right_inj, String.append_left_inj, String.append_left_inj,
    String.append_right_inj, Text.quoted_inj]

theorem message_noHost_inj {uri uri' : List Char} :
    (Error.descriptorInvalid (Descriptor.Fault.noHost uri).message).message =
      (Error.descriptorInvalid (Descriptor.Fault.noHost uri').message).message ↔ uri = uri' := by
  have hform (uri : List Char) :
      (Error.descriptorInvalid (Descriptor.Fault.noHost uri).message).message =
        "descriptor" ++ ": " ++ ("no host in " ++ Text.quoted (String.ofList uri)) := rfl
  rw [hform, hform, String.append_right_inj, String.append_right_inj, Text.quoted_inj,
    String.ofList_inj]

namespace AroundPassword

variable {f : AroundPassword} {password password' : String}

theorem url_inj : f.url password = f.url password' ↔ password = password' := by
  rw [url, url, withInfo, withInfo, String.ofList_inj]
  simp [String.toList_inj]

theorem trim_url_inj :
    Text.trim (f.url password).toList = Text.trim (f.url password').toList ↔
      password = password' := by
  rw [url, url, toList_withInfo, toList_withInfo, Descriptor.trim_append_scheme,
    Descriptor.trim_append_scheme, Text.trimEnd_append_cons _ _ (by decide),
    Text.trimEnd_append_cons _ _ (by decide)]
  simp [String.toList_inj]

theorem printed_proxyAddress_eq_iff (h : IsVerbatim password) (h' : IsVerbatim password') :
    ProxyAddress.printed (f.url password) = ProxyAddress.printed (f.url password') ↔
      password = password' ∨ ∃ a, ProxyAddress.parse (f.url password) = .ok a := by
  have hread := ProxyAddress.read_url f h
  have hread' := ProxyAddress.read_url f h'
  rw [ProxyAddress.printed, ProxyAddress.printed, ProxyAddress.parse, ProxyAddress.parse, hread,
    hread']
  rcases ProxyAddress.read (f.withInfo f.user).toList with fault | a
  · change (Except.error _ : Except String _) = .error _ ↔
      _ ∨ ∃ a, (Except.error _ : Except Error _) = .ok a
    rw [Except.error.injEq, message_proxyAddressInvalid_inj, url_inj]
    simp
  · exact ⟨fun _ => .inr ⟨_, rfl⟩, fun _ => rfl⟩

theorem printed_descriptor_eq_iff (h : IsVerbatim password) (h' : IsVerbatim password') :
    Descriptor.printed (f.url password) = Descriptor.printed (f.url password') ↔
      password = password' ∨ ¬ f.LacksHost := by
  by_cases hf : f.LacksHost
  · -- both are refused, and each message quotes its own URI
    rw [Descriptor.printed, Descriptor.printed, Descriptor.parse, Descriptor.parse,
      Descriptor.parseTrimmed_url_of_lacksHost h hf, Descriptor.parseTrimmed_url_of_lacksHost h' hf]
    change (Except.error _ : Except String _) = .error _ ↔ _
    rw [Except.error.injEq, message_noHost_inj, trim_url_inj]
    simp [hf]
  · rw [Descriptor.printed, Descriptor.printed, Descriptor.parse, Descriptor.parse,
      Descriptor.parseTrimmed_url h hf, Descriptor.parseTrimmed_url h' hf]
    refine iff_of_true ?_ (.inr hf)
    rcases Descriptor.parseTrimmed _ with fault | d
    · rfl
    · rfl

end AroundPassword

end SshTunnel
