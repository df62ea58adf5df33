import SshTunnel.Proofs.Address.Reading
import SshTunnel.Proofs.Text.Percent

/-!
# URIs are read as they were written

`UriParts` is what a URI is to say, and `UriParts.WrittenAs` tells in which ways it can be put: the
user, the password and the parameters with percent groups, the host in brackets iff it holds a
colon. Whatever the way, the URI is read into a descriptor of just these parts.
-/

namespace SshTunnel.Descriptor

open Text.Percent (Escapes)
open HostText (Names)

structure Login where
  user : String
  password : Option String := none
  user_ne : user ≠ ""

/-- What a URI is to say, in parts that do not run into each other. -/
structure UriParts where
  scheme : List Char
  login : Option Login := none
  host : List Char
  port : Option (List Char) := none
  path : List Char := []
  params : List (String × String) := []
  colon_not_mem_scheme : ':' ∉ scheme
  host_ne : host ≠ []
  host_plain : ∀ c ∈ host, Text.isBlank c = false ∧ c ∉ ['/', '?', '@', '[', ']']
  port_plain : ∀ text, port = some text →
    ∀ c ∈ text, Text.isBlank c = false ∧ c ∉ ['/', '?', '@', ':']
  path_start : path.head?.getD '/' = '/'
  question_not_mem_path : '?' ∉ path

/-! ## Ways to write the parts -/

/-- Ways to write a user and a password, up to the at sign. -/
inductive WritesLogin : Option Login → List Char → Prop
  | none : WritesLogin none []
  | user {l : Login} {u : List Char} (hpassword : l.password = .none)
      (hu : Escapes false u (Text.Utf8.ofString l.user)) : WritesLogin (some l) (u ++ ['@'])
  | password {l : Login} {p : String} {u v : List Char} (hpassword : l.password = some p)
      (hu : Escapes false u (Text.Utf8.ofString l.user))
      (hv : Escapes false v (Text.Utf8.ofString p)) : WritesLogin (some l) (u ++ ':' :: v ++ ['@'])

/-- A host, in brackets iff it holds a colon. -/
def hostText (host : List Char) : List Char :=
  if ':' ∈ host then '[' :: (host ++ [']']) else host

def portText : Option (List Char) → List Char
  | none => []
  | some text => ':' :: text

/-- Ways to write parameters as items of a query, with nothing between some of the ampersands. -/
inductive WritesItems : List (String × String) → List (List Char) → Prop
  | nil : WritesItems [] []
  | blank {params : List (String × String)} {items : List (List Char)}
      (h : WritesItems params items) : WritesItems params ([] :: items)
  | pair {name value : String} {n v : List Char} {params : List (String × String)}
      {items : List (List Char)} (hn : Escapes true n (Text.Utf8.ofString name))
      (hv : Escapes true v (Text.Utf8.ofString value)) (h : WritesItems params items) :
      WritesItems ((name, value) :: params) ((n ++ '=' :: v) :: items)

/-- Ways to write a query with its question mark. -/
inductive WritesQuery : List (String × String) → List Char → Prop
  | absent : WritesQuery [] []
  | present {params : List (String × String)} {items : List (List Char)}
      (h : WritesItems params items) : WritesQuery params ('?' :: ['&'].intercalate items)

def UriParts.WrittenAs (u : UriParts) (uri : String) : Prop :=
  ∃ login query, WritesLogin u.login login ∧ WritesQuery u.params query ∧
    uri.toList = u.scheme ++ ':' :: '/' :: '/' ::
      (login ++ (hostText u.host ++ portText u.port) ++ (u.path ++ query))

/-! ## The query -/

theorem WritesItems.not_mem {params : List (String × String)} {items : List (List Char)}
    (h : WritesItems params items) : ∀ item ∈ items, '&' ∉ item := by
  induction h with
  | nil => simp
  | blank _ ih => simpa using ih
  | pair hn hv _ ih =>
      simpa [hn.not_mem (c := '&') (by simp), hv.not_mem (c := '&') (by simp)] using ih

theorem mem_intercalate {c : Char} {items : List (List Char)}
    (h : c ∈ ['&'].intercalate items) : c = '&' ∨ ∃ item ∈ items, c ∈ item := by
  induction items with
  | nil => simp at h
  | cons item items ih =>
      cases items with
      | nil => exact .inr ⟨item, by simp, by simpa using h⟩
      | cons item' items =>
          rw [List.intercalate_cons_cons, List.append_assoc, List.mem_append, List.mem_append] at h
          rcases h with h | h | h
          · exact .inr ⟨item, by simp, h⟩
          · exact .inl (List.mem_singleton.1 h)
          · rcases ih h with h | ⟨x, hx, hc⟩
            · exact .inl h
            · exact .inr ⟨x, List.mem_cons_of_mem _ hx, hc⟩

theorem WritesItems.isBlank_eq_false {params : List (String × String)} {items : List (List Char)}
    (h : WritesItems params items) : ∀ item ∈ items, ∀ c ∈ item, Text.isBlank c = false := by
  have hequals : Text.isBlank '=' = false := by decide
  induction h with
  | nil => simp
  | blank _ ih => simpa using ih
  | pair hn hv _ ih =>
      intro item hitem c hc
      rcases List.mem_cons.1 hitem with rfl | hitem
      · rcases List.mem_append.1 hc with hc | hc
        · exact hn.isBlank_eq_false c hc
        · rcases List.mem_cons.1 hc with rfl | hc
          · exact hequals
          · exact hv.isBlank_eq_false c hc
      · exact ih item hitem c hc

theorem WritesQuery.isBlank_eq_false {params : List (String × String)} {query : List Char}
    (h : WritesQuery params query) : ∀ c ∈ query, Text.isBlank c = false := by
  cases h with
  | absent => simp
  | present hitems =>
      intro c hc
      rcases List.mem_cons.1 hc with rfl | hc
      · decide
      · rcases mem_intercalate hc with rfl | ⟨item, hitem, hc⟩
        · decide
        · exact hitems.isBlank_eq_false item hitem c hc

theorem WritesItems.queryItems_eq {params : List (String × String)} {items : List (List Char)}
    (h : WritesItems params items) :
    queryItems (['&'].intercalate items) = items.filter (· ≠ []) := by
  rw [queryItems, Text.splitEvery_eq_splitOn]
  by_cases hnil : items = []
  · subst hnil
    simp
  · rw [List.splitOn_intercalate _ h.not_mem hnil]

theorem decodes_of_escapes {plus : Bool} {w : List Char} {text : String}
    (h : Escapes plus w (Text.Utf8.ofString text)) : Decodes w text :=
  h.unescape_eq

theorem cutItem_append_cons {n : List Char} (v : List Char) (h : '=' ∉ n) :
    cutItem (n ++ '=' :: v) = (n, v) := by
  rw [cutItem, ← Text.splitOptional_fst, ← Text.splitOptional_snd_getD,
    Text.splitOptional_append_cons v h]
  rfl

/-- Items that were written from parameters add these parameters. -/
theorem WritesItems.addItems_eq {params : List (String × String)} {items : List (List Char)}
    (h : WritesItems params items) (d : Descriptor) :
    addItems d (items.filter (· ≠ [])) =
      .ok (params.foldl (fun d p => d.withParam p.1 p.2) d) := by
  induction h generalizing d with
  | nil => rfl
  | blank _ ih => simpa using ih d
  | @pair name value n v params items hn hv _ ih =>
      have hne : (n ++ '=' :: v) ≠ [] := by simp
      rw [List.filter_cons_of_pos (by simp), List.foldl_cons, addItems_cons_eq_ok_iff,
        cutItem_append_cons v (hn.not_mem (by simp))]
      exact ⟨name, value, decodes_of_escapes hn, decodes_of_escapes hv, ih _⟩

theorem value?_foldl_withParam (params : List (String × String)) (d : Descriptor) (name : String) :
    (params.foldl (fun d p => d.withParam p.1 p.2) d).value? name =
      (d.value? name).or (params.lookup name) := by
  induction params generalizing d with
  | nil => simp
  | cons p params ih =>
      rw [List.foldl_cons, ih, value?_withParam, List.lookup_cons, Option.or_assoc]
      by_cases hname : name = p.1
      · simp [hname]
      · have hb : (name == p.1) = false := by simpa using hname
        simp [hname, hb]

/-! ## The authority -/

/-- A host whose text ends before the port: no bracket closes the host early, and one that has none
around it does not start with one. -/
def EndsBeforePort (host : List Char) : Prop :=
  if ':' ∈ host then ']' ∉ host else host.head? ≠ some '['

instance (host : List Char) : Decidable (EndsBeforePort host) :=
  inferInstanceAs (Decidable (if ':' ∈ host then ']' ∉ host else host.head? ≠ some '['))

theorem names_hostText {host : List Char} {port : Option (List Char)} (hhost : EndsBeforePort host)
    (hport : ∀ text, port = some text → ':' ∉ text) :
    Names (hostText host ++ portText port) host port := by
  rw [EndsBeforePort] at hhost
  rw [hostText]
  split
  · next hcolon =>
      rw [if_pos hcolon] at hhost
      cases port with
      | none => simpa [portText] using Names.bracketed hhost
      | some text =>
          have hnames : Names ('[' :: (host ++ ']' :: ':' :: text)) host (some text) :=
            .bracketedPort hhost
          simpa [portText] using hnames
  · next hcolon =>
      rw [if_neg hcolon] at hhost
      cases port with
      | none => simpa [portText] using Names.plain hhost hcolon
      | some text => exact .plainPort hhost (hport text rfl)

theorem endsBeforePort_of_names {host text : List Char} {port : Option (List Char)}
    (h : Names (hostText host ++ ':' :: text) host port) (htext : ']' ∉ text) :
    EndsBeforePort host := by
  -- a bracket that closes the host early leaves less of it than there is
  have hearly {a : List Char} (ha : ']' ∉ a) (hlt : a.length < host.length)
      (hs : ∃ after, hostText host ++ ':' :: text = '[' :: (a ++ ']' :: after)) : False := by
    obtain ⟨after, hs⟩ := hs
    rw [hs, HostText.names_bracket_iff ha] at h
    rw [h.1] at hlt
    exact Nat.lt_irrefl _ hlt
  rw [EndsBeforePort]
  split
  · next hcolon =>
      intro hmem
      obtain ⟨a, b, rfl, ha⟩ := List.eq_append_cons_of_mem hmem
      refine hearly ha (by simp) ⟨b ++ ']' :: ':' :: text, ?_⟩
      rw [hostText, if_pos hcolon]
      simp
  · next hcolon =>
      intro hhead
      obtain ⟨rest, rfl⟩ := List.head?_eq_some_iff.1 hhead
      by_cases hmem : ']' ∈ rest
      · obtain ⟨a, b, rfl, ha⟩ := List.eq_append_cons_of_mem hmem
        have hshorter : a.length < ('[' :: (a ++ ']' :: b)).length := by
          rw [List.length_cons, List.length_append]
          omega
        refine hearly ha hshorter ⟨b ++ ':' :: text, ?_⟩
        rw [hostText, if_neg hcolon]
        simp
      · rw [hostText, if_neg hcolon, List.cons_append] at h
        exact (HostText.not_names_of_not_mem (by simp [hmem, htext])).1 h

theorem endsBeforePort_of_not_mem {host : List Char} (h : '[' ∉ host) (h' : ']' ∉ host) :
    EndsBeforePort host := by
  rw [EndsBeforePort]
  split
  · exact h'
  · exact fun hhead => h (List.mem_of_mem_head? hhead)

theorem UriParts.names_hostText (u : UriParts) :
    Names (hostText u.host ++ portText u.port) u.host u.port := by
  have hnot {c : Char} (hc : c ∈ ['/', '?', '@', '[', ']']) : c ∉ u.host :=
    fun hmem => (u.host_plain c hmem).2 hc
  refine Descriptor.names_hostText (endsBeforePort_of_not_mem (hnot (by simp)) (hnot (by simp))) ?_
  exact fun text hport hmem => (u.port_plain text hport ':' hmem).2 (by simp)

theorem forall_mem_hostText {p : Char → Prop} {host : List Char} {port : Option (List Char)}
    (hmarks : ∀ c ∈ ['[', ']', ':'], p c) (hhost : ∀ c ∈ host, p c)
    (hport : ∀ text, port = some text → ∀ c ∈ text, p c) :
    ∀ c ∈ hostText host ++ portText port, p c := by
  intro c hc
  rcases List.mem_append.1 hc with hc | hc
  · rw [hostText] at hc
    split at hc
    · rcases List.mem_cons.1 hc with rfl | hc
      · exact hmarks '[' (by simp)
      · rcases List.mem_append.1 hc with hc | hc
        · exact hhost c hc
        · exact hmarks c (by simp_all)
    · exact hhost c hc
  · cases port with
    | none => simp [portText] at hc
    | some text =>
        rcases List.mem_cons.1 hc with rfl | hc
        · exact hmarks ':' (by simp)
        · exact hport text rfl c hc

theorem UriParts.hostText_plain (u : UriParts) :
    ∀ c ∈ hostText u.host ++ portText u.port, Text.isBlank c = false ∧ c ∉ ['/', '?', '@'] := by
  have hsub : ['/', '?', '@'] ⊆ ['/', '?', '@', '[', ']'] ∧
      ['/', '?', '@'] ⊆ ['/', '?', '@', ':'] := by decide
  refine forall_mem_hostText (by simp [Text.isBlank]) (fun c hc => ?_) fun text hport c hc => ?_
  · have h := u.host_plain c hc
    exact ⟨h.1, fun hmem => h.2 (hsub.1 hmem)⟩
  · have h := u.port_plain text hport c hc
    exact ⟨h.1, fun hmem => h.2 (hsub.2 hmem)⟩

theorem UriParts.hostText_ne (u : UriParts) : hostText u.host ++ portText u.port ≠ [] := by
  rw [hostText]
  split
  · simp
  · simp [u.host_ne]

theorem decode_of_escapes {w : List Char} {text : String}
    (h : Escapes false w (Text.Utf8.ofString text)) : decode w = .ok text.toList := by
  rw [decode, Escapes.decode_eq (s := text.toList) h]

theorem WritesLogin.not_mem {login : Option Login} {w : List Char} (h : WritesLogin login w)
    {c : Char} (hc : c ∈ ['/', '?']) : c ∉ w := by
  have hsub : ['/', '?'] ⊆ ['/', '?', '#', '@', ':', '[', ']', '&', '=', ' '] := by decide
  have hne : ∀ c ∈ ['/', '?'], c ≠ '@' ∧ c ≠ ':' := by simp
  cases h with
  | none => simp
  | user _ hu => simp [hu.not_mem (hsub hc), hne c hc]
  | password _ hu hv => simp [hu.not_mem (hsub hc), hv.not_mem (hsub hc), hne c hc]

theorem WritesLogin.readUserinfo_eq {login : Option Login} {w hostport : List Char}
    (h : WritesLogin login w) (hhost : '@' ∉ hostport) :
    readUserinfo (splitUserinfo (w ++ hostport)).1 =
        .ok (login.map (·.user), login.bind (·.password)) ∧
      (splitUserinfo (w ++ hostport)).2 = hostport := by
  have hne {l : Login} {w : List Char} (hu : Escapes false w (Text.Utf8.ofString l.user)) :
      w ≠ [] := by
    rintro rfl
    have hempty : decode [] = .ok "".toList := decode_of_escapes .nil
    have huser : "".toList = l.user.toList :=
      Except.ok.inj (hempty.symm.trans (decode_of_escapes hu))
    exact l.user_ne (String.toList_inj.1 huser.symm)
  cases h with
  | none =>
      rw [List.nil_append, splitUserinfo_of_not_mem hhost]
      exact ⟨rfl, rfl⟩
  | @user l w hpassword hu =>
      rw [List.append_assoc, List.singleton_append, splitUserinfo_append_cons hhost]
      refine ⟨?_, rfl⟩
      rw [readUserinfo, Text.splitOptional_of_not_mem (hu.not_mem (by simp))]
      simp [decode_of_escapes hu, hne hu, hpassword]
  | @password l p w v hpassword hu hv =>
      rw [List.append_assoc, List.singleton_append, splitUserinfo_append_cons hhost]
      refine ⟨?_, rfl⟩
      rw [readUserinfo, Text.splitOptional_append_cons v (hu.not_mem (by simp))]
      simp [bind, Except.bind, pure, Except.pure, decode_of_escapes hu, decode_of_escapes hv,
        hne hu, hpassword]

/-! ## The whole URI -/

theorem WritesQuery.trimEnd_append {params : List (String × String)} {query path : List Char}
    (h : WritesQuery params query) (hpath : path.head?.getD '/' = '/') (hnot : '?' ∉ path) :
    ∃ path', Text.trimEnd (path ++ query) = path' ++ query ∧ path'.head?.getD '/' = '/' ∧
      '?' ∉ path' := by
  by_cases hquery : query = []
  · have hstart : (Text.trimEnd path).head?.getD '/' = '/' := by
      cases path with
      | nil => rfl
      | cons c path =>
          obtain rfl : c = '/' := hpath
          have hend := Text.trimEnd_append_cons (c := '/') [] path (by decide)
          rw [List.nil_append] at hend
          rw [hend]
          rfl
    have hmark : '?' ∉ Text.trimEnd path := fun hmem => hnot (Text.mem_of_mem_trimEnd hmem)
    exact ⟨Text.trimEnd path, by simp [hquery], hstart, hmark⟩
  · -- the last character of a query is not blank, so nothing is taken from the path
    have hend := Text.trimEnd_append path [] hquery h.isBlank_eq_false
    rw [Text.trimEnd_nil, List.append_nil] at hend
    exact ⟨path, hend, hpath, hnot⟩

theorem WritesQuery.splitOptional_eq {params : List (String × String)} {query : List Char}
    (h : WritesQuery params query) {s : List Char} (hs : '?' ∉ s) :
    (Text.splitOptional '?' (s ++ query)).1 = s ∧
      ∃ items, WritesItems params items ∧
        queryItems ((Text.splitOptional '?' (s ++ query)).2.getD []) = items.filter (· ≠ []) := by
  cases h with
  | absent =>
      rw [List.append_nil, Text.splitOptional_of_not_mem hs]
      exact ⟨rfl, [], .nil, rfl⟩
  | present hitems =>
      rw [Text.splitOptional_append_cons _ hs]
      exact ⟨rfl, _, hitems, hitems.queryItems_eq⟩

theorem takeWhile_append_path {s path : List Char} (hs : '/' ∉ s)
    (hpath : path.head?.getD '/' = '/') : (s ++ path).takeWhile (· ≠ '/') = s := by
  rw [Text.takeWhile_ne_append path hs]
  cases path with
  | nil => simp
  | cons c path =>
      obtain rfl : c = '/' := hpath
      simp

/-- A URI that is written from parts is read into a descriptor of these parts. Each parameter has
the value it is given first. -/
theorem parse_of_writtenAs {u : UriParts} {uri : String} (h : u.WrittenAs uri) :
    ∃ d, parse uri = .ok d ∧ d.host = String.ofList u.host ∧ d.port = u.port.map String.ofList ∧
      d.user = u.login.map (·.user) ∧ d.password = u.login.bind (·.password) ∧
      ∀ name, d.value? name = u.params.lookup name := by
  obtain ⟨login, query, hlogin, hquery, huri⟩ := h
  obtain ⟨path, hend, hpath, hnot⟩ := hquery.trimEnd_append u.path_start u.question_not_mem_path
  -- no part holds a character that the reader cuts at before it gets to that part
  let hostport := hostText u.host ++ portText u.port
  have hplain : ∀ c ∈ hostport, Text.isBlank c = false ∧ c ∉ ['/', '?', '@'] := u.hostText_plain
  have hcut {c : Char} (hc : c ∈ ['/', '?', '@']) : c ∉ hostport :=
    fun hmem => (hplain c hmem).2 hc
  have hrest : afterScheme (Text.trim uri.toList) = (login ++ hostport ++ path) ++ query := by
    rw [huri, afterScheme_trim _ u.colon_not_mem_scheme,
      Text.trimEnd_append login _ u.hostText_ne fun c hc => (hplain c hc).1, hend,
      List.append_assoc _ path]
  have hbefore : '?' ∉ login ++ hostport ++ path := by
    simp [hlogin.not_mem (c := '?') (by simp), hcut (c := '?') (by simp), hnot]
  have hauthority : (login ++ hostport ++ path).takeWhile (· ≠ '/') = login ++ hostport :=
    takeWhile_append_path
      (by simp [hlogin.not_mem (c := '/') (by simp), hcut (c := '/') (by simp)]) hpath
  obtain ⟨hbefore, items, hitems, hqueryItems⟩ := hquery.splitOptional_eq hbefore
  obtain ⟨hinfo, hhost⟩ := hlogin.readUserinfo_eq (hcut (c := '@') (by simp))
  let d : Descriptor := {
    host := String.ofList u.host
    port := u.port.map String.ofList
    user := u.login.map (·.user)
    password := u.login.bind (·.password) }
  have hd : readAuthority (Text.trim uri.toList) (login ++ hostport ++ path) = .ok d := by
    rw [readAuthority_eq_ok_iff, hauthority, hhost, hinfo]
    exact ⟨_, _, _, _, rfl, splitHostPort_eq_ok_iff.2 (.inl u.names_hostText), u.host_ne, rfl⟩
  obtain ⟨params, hparams⟩ :
      ∃ params, u.params.foldl (fun d p => d.withParam p.1 p.2) d = { d with params } :=
    ⟨_, addItems_eq (hitems.addItems_eq d)⟩
  refine ⟨{ d with params }, ?_, rfl, rfl, rfl, rfl, fun name => ?_⟩
  · rw [parse_eq_ok_iff, hrest, hbefore, hqueryItems, ← hparams]
    exact ⟨d, hd, hitems.addItems_eq d⟩
  · rw [← hparams, value?_foldl_withParam]
    rfl

/-- An at sign and a colon in the password, a slash and a space in a value, empty items and a name
that is repeated. -/
theorem parse_of_writtenAs_mixed :
    ∃ u : UriParts,
      u.WrittenAs
        "qemu+ssh://bob:s%40cret%3A@[fe80::1]:2222/system?&keyfile=%7E%2Fmy+key&&=x&keyfile=n" ∧
      ∃ d, parse
        "qemu+ssh://bob:s%40cret%3A@[fe80::1]:2222/system?&keyfile=%7E%2Fmy+key&&=x&keyfile=n" =
          .ok d ∧
        d.host = "fe80::1" ∧ d.port = some "2222" ∧ d.user = some "bob" ∧
        d.password = some "s@cret:" ∧ d.value? "keyfile" = some "~/my key" ∧
        d.value? "" = some "x" ∧ d.value? "n" = none := by
  let u : UriParts := {
    scheme := "qemu+ssh".toList
    login := some { user := "bob", password := some "s@cret:", user_ne := by decide }
    host := "fe80::1".toList
    port := some "2222".toList
    path := "/system".toList
    params := [("keyfile", "~/my key"), ("", "x"), ("keyfile", "n")]
    colon_not_mem_scheme := by decide
    host_ne := by decide
    host_plain := by simp [Text.isBlank]
    port_plain := by simp [Text.isBlank]
    path_start := by decide
    question_not_mem_path := by decide }
  have hwords (plus : Bool) (text : String) :
      Escapes plus (Text.Percent.encode text.toList) (Text.Utf8.ofString text) :=
    Text.Percent.escapes_encode plus text.toList
  have hvalue : Escapes true
      (Text.Percent.encode "~/my".toList ++ '+' :: Text.Percent.encode "key".toList)
      (Text.Utf8.ofString "~/my key") := by
    have hbytes : Text.Utf8.ofString "~/my key" =
        Text.Utf8.ofString "~/my" ++ 0x20 :: Text.Utf8.ofString "key" := by decide
    rw [hbytes]
    exact (hwords true "~/my").append (.space rfl (hwords true "key"))
  have hwritten : u.WrittenAs
      "qemu+ssh://bob:s%40cret%3A@[fe80::1]:2222/system?&keyfile=%7E%2Fmy+key&&=x&keyfile=n" :=
    ⟨_, _, .password rfl (hwords false "bob") (hwords false "s@cret:"),
      .present (.blank (.pair (hwords true "keyfile") hvalue (.blank
        (.pair (hwords true "") (hwords true "x")
          (.pair (hwords true "keyfile") (hwords true "n") .nil))))), by decide⟩
  obtain ⟨d, hparse, hhost, hport, huser, hpassword, hparams⟩ := parse_of_writtenAs hwritten
  exact ⟨u, hwritten, d, hparse, hhost, hport, huser, hpassword, hparams _, hparams _, hparams _⟩

end SshTunnel.Descriptor
