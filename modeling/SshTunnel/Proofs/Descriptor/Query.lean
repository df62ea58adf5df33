import SshTunnel.Descriptor.Uri
import SshTunnel.Proofs.Except
import SshTunnel.Proofs.Text.Cuts
import SshTunnel.Proofs.Text.Utf8

/-!
# The parameters that a query gives

`queryPairs` cuts the query of a URI into the pairs that are written there, and `FirstValue` says
which of them gives a name its value: the first one whose name decodes to it. A descriptor has just
the values that stand in the query of what follows the scheme. That is the query of the URI itself,
unless the first `://` stands in it (`MarkInQuery`), as it can in the value of a parameter.
-/

namespace SshTunnel.Descriptor

/-- An item of a query up to its first equals sign, and what follows that. -/
def cutItem (item : List Char) : List Char × List Char :=
  (item.takeWhile (· ≠ '='), (item.dropWhile (· ≠ '=')).tail)

/-- The names and values in the query of a URI as they are written. The query is what follows the
first question mark; its items stand between ampersands, and the empty ones do not count. -/
def queryPairs (uri : List Char) : List (List Char × List Char) :=
  let query := (uri.dropWhile (· ≠ '?')).tail
  ((query.splitOn '&').filter (· ≠ [])).map cutItem

/-- The first `://` of a URI stands in its query, and `rest` is what follows it. -/
def MarkInQuery (uri rest : List Char) : Prop :=
  ∃ before query, uri = before ++ '?' :: (query ++ ([':', '/', '/'] ++ rest)) ∧ '?' ∉ before ∧
    ¬ [':', '/', '/'] <:+: before ∧ ¬ [':', '/', '/'] <:+: query

/-- The octets that a written name or value stands for. -/
def spelled (written : List Char) : Bytes :=
  Text.Percent.unescape (Text.Utf8.encode (written.map fun c => if c = '+' then ' ' else c))

/-- A written name or value stands for a text: it spells the octets of the text. -/
def Decodes (written : List Char) (text : String) : Prop :=
  spelled written = Text.Utf8.ofString text

/-- The first pair whose name stands for `name` has a value that stands for `value`. -/
def FirstValue (pairs : List (List Char × List Char)) (name value : String) : Prop :=
  ∃ before p after, pairs = before ++ p :: after ∧ (∀ q ∈ before, ¬ Decodes q.1 name) ∧
    Decodes p.1 name ∧ Decodes p.2 value

instance (written : List Char) (text : String) : Decidable (Decodes written text) :=
  inferInstanceAs (Decidable (_ = _))

theorem decodeQuery_eq_ok_iff {written : List Char} {text : String} :
    decodeQuery written = .ok text.toList ↔ Decodes written text := by
  rw [Decodes, Text.Utf8.ofString, ← Text.Utf8.decode_eq_ok_iff, decodeQuery, decode,
    Text.Percent.decode, spelled]
  split
  · next t h => rw [h]; simp
  · next fault h => simp [h]

theorem not_firstValue_nil (name value : String) : ¬ FirstValue [] name value := by
  rintro ⟨before, p, after, h, -⟩
  simp at h

theorem firstValue_cons_iff (p : List Char × List Char) (pairs : List (List Char × List Char))
    (name value : String) :
    FirstValue (p :: pairs) name value ↔
      (Decodes p.1 name ∧ Decodes p.2 value) ∨
        (¬ Decodes p.1 name ∧ FirstValue pairs name value) := by
  constructor
  · rintro ⟨before, q, after, h, hbefore, hname, hvalue⟩
    cases before with
    | nil =>
        obtain ⟨rfl, rfl⟩ : p = q ∧ pairs = after := by simpa using h
        exact .inl ⟨hname, hvalue⟩
    | cons r before =>
        obtain ⟨rfl, rfl⟩ : p = r ∧ pairs = before ++ q :: after := by simpa using h
        refine .inr ⟨hbefore p (by simp), before, q, after, rfl, ?_, hname, hvalue⟩
        intro s hs
        exact hbefore s (by simp [hs])
  · rintro (⟨hname, hvalue⟩ | ⟨hnot, before, q, after, rfl, hbefore, hname, hvalue⟩)
    · exact ⟨[], p, pairs, rfl, by simp, hname, hvalue⟩
    · refine ⟨p :: before, q, after, rfl, ?_, hname, hvalue⟩
      intro s hs
      rcases List.mem_cons.1 hs with rfl | hs
      · exact hnot
      · exact hbefore s hs

instance decidableFirstValue (name value : String) :
    (pairs : List (List Char × List Char)) → Decidable (FirstValue pairs name value)
  | [] => isFalse (not_firstValue_nil name value)
  | p :: pairs =>
      have := decidableFirstValue name value pairs
      decidable_of_iff _ (firstValue_cons_iff p pairs name value).symm

theorem Decodes.iff_eq {written : List Char} {text other : String} (h : Decodes written text) :
    Decodes written other ↔ text = other := by
  rw [← decodeQuery_eq_ok_iff] at h ⊢
  rw [h, Except.ok.injEq, String.toList_inj]

/-! ## Reading the items -/

theorem readPair_eq_ok_iff {item : List Char} {name value : String} :
    readPair item = .ok (name, value) ↔
      Decodes (cutItem item).1 name ∧ Decodes (cutItem item).2 value := by
  have hfst := Text.splitOptional_fst '=' item
  have hsnd := Text.splitOptional_snd_getD '=' item
  rw [readPair, cutItem, ← hfst, ← hsnd, ← decodeQuery_eq_ok_iff, ← decodeQuery_eq_ok_iff]
  constructor
  · intro h
    obtain ⟨n, hn, h⟩ := bind_eq_ok_iff.1 h
    obtain ⟨v, hv, h⟩ := bind_eq_ok_iff.1 h
    obtain ⟨rfl, rfl⟩ : String.ofList n = name ∧ String.ofList v = value := by
      simpa [pure, Except.pure] using h
    rw [String.toList_ofList, String.toList_ofList]
    exact ⟨hn, hv⟩
  · rintro ⟨hn, hv⟩
    refine bind_eq_ok_iff.2 ⟨name.toList, hn, bind_eq_ok_iff.2 ⟨value.toList, hv, ?_⟩⟩
    simp [pure, Except.pure]

theorem addItems_cons_eq_ok_iff {d d' : Descriptor} {item : List Char} {items : List (List Char)} :
    addItems d (item :: items) = .ok d' ↔
      ∃ name value, Decodes (cutItem item).1 name ∧ Decodes (cutItem item).2 value ∧
        addItems (d.withParam name value) items = .ok d' := by
  rw [addItems, bind_eq_ok_iff]
  constructor
  · rintro ⟨⟨name, value⟩, hpair, h⟩
    obtain ⟨hname, hvalue⟩ := readPair_eq_ok_iff.1 hpair
    exact ⟨name, value, hname, hvalue, h⟩
  · rintro ⟨name, value, hname, hvalue, h⟩
    exact ⟨(name, value), readPair_eq_ok_iff.2 ⟨hname, hvalue⟩, h⟩

theorem decodes_of_addItems {items : List (List Char)} {d d' : Descriptor}
    (h : addItems d items = .ok d') {item : List Char} (hitem : item ∈ items) :
    ∃ name value, Decodes (cutItem item).1 name ∧ Decodes (cutItem item).2 value := by
  induction items generalizing d with
  | nil => simp at hitem
  | cons first items ih =>
      obtain ⟨name, value, hname, hvalue, h⟩ := addItems_cons_eq_ok_iff.1 h
      rcases List.mem_cons.1 hitem with rfl | hitem
      · exact ⟨name, value, hname, hvalue⟩
      · exact ih h hitem

theorem value?_of_addItems {items : List (List Char)} {d d' : Descriptor}
    (h : addItems d items = .ok d') (name value : String) :
    d'.value? name = some value ↔
      d.value? name = some value ∨
        (d.value? name = none ∧ FirstValue (items.map cutItem) name value) := by
  induction items generalizing d with
  | nil =>
      obtain rfl : d = d' := by simpa [addItems] using h
      simp [not_firstValue_nil]
  | cons item items ih =>
      obtain ⟨first, v, hfirst, hv, h⟩ := addItems_cons_eq_ok_iff.1 h
      rw [ih h, value?_withParam, List.map_cons, firstValue_cons_iff, hfirst.iff_eq, hv.iff_eq]
      cases d.value? name with
      | some w => simp
      | none =>
          by_cases hname : name = first
          · simp [hname]
          · simp [hname, Ne.symm hname]

/-- A value that is not empty counts wherever it is asked for. -/
theorem get?_eq_some_iff (d : Descriptor) (name : String) {value : String} (h : value ≠ "") :
    d.get? name = some value ↔ d.value? name = some value := by
  rw [get?, Option.filter_eq_some_iff]
  simp [h]

/-! ## Reading a URI -/

theorem params_of_readAuthority {uri rest : List Char} {d : Descriptor}
    (h : readAuthority uri rest = .ok d) : d.params = [] := by
  rw [readAuthority] at h
  obtain ⟨⟨user, password⟩, -, h⟩ := bind_eq_ok_iff.1 h
  obtain ⟨⟨host, port⟩, -, h⟩ := bind_eq_ok_iff.1 h
  dsimp only at h
  split at h
  · simp at h
  · obtain rfl := Except.ok.inj h
    rfl

theorem addItems_of_parse {uri : String} {d : Descriptor} (h : parse uri = .ok d) :
    ∃ d₀ items, d₀.params = [] ∧
      items.map cutItem = queryPairs (afterScheme (Text.trim uri.toList)) ∧
      addItems d₀ items = .ok d := by
  rw [parse, mapError_eq_ok_iff, parseTrimmed] at h
  obtain ⟨d₀, hd₀, h⟩ := bind_eq_ok_iff.1 h
  let rest := afterScheme (Text.trim uri.toList)
  refine ⟨d₀, queryItems ((Text.splitOptional '?' rest).2.getD []),
    params_of_readAuthority hd₀, ?_, h⟩
  rw [queryPairs, queryItems, Text.splitEvery_eq_splitOn, Text.splitOptional_snd_getD]

/-- A descriptor that was read from a URI gives a name the value that the query of what follows the
scheme gives it first. -/
theorem value?_of_parse {uri : String} {d : Descriptor} (h : parse uri = .ok d)
    (name value : String) :
    d.value? name = some value ↔
      FirstValue (queryPairs (afterScheme (Text.trim uri.toList))) name value := by
  obtain ⟨d₀, items, hparams, hitems, hadd⟩ := addItems_of_parse h
  have hnone : d₀.value? name = none := by simp [value?, hparams]
  rw [value?_of_addItems hadd, hnone, hitems]
  simp

theorem exists_firstValue_iff {pairs : List (List Char × List Char)} {name : String}
    (hdecoded : ∀ p ∈ pairs, ∃ value, Decodes p.2 value) :
    (∃ value, FirstValue pairs name value) ↔ ∃ p ∈ pairs, Decodes p.1 name := by
  induction pairs with
  | nil => simp [not_firstValue_nil]
  | cons p pairs ih =>
      have htail := ih fun q hq => hdecoded q (by simp [hq])
      obtain ⟨v, hv⟩ := hdecoded p (by simp)
      simp only [firstValue_cons_iff, exists_or, exists_and_left, htail, List.mem_cons,
        exists_eq_or_imp]
      by_cases hname : Decodes p.1 name
      · simp only [hname, true_and, not_true_eq_false, false_and, or_false, true_or, iff_true]
        exact ⟨v, hv⟩
      · simp [hname]

/-- A name is present in such a descriptor iff some pair has it, whatever the value. -/
theorem has_of_parse {uri : String} {d : Descriptor} (h : parse uri = .ok d) (name : String) :
    d.has name = true ↔
      ∃ p ∈ queryPairs (afterScheme (Text.trim uri.toList)), Decodes p.1 name := by
  obtain ⟨d₀, items, -, hitems, hadd⟩ := addItems_of_parse h
  have hdecoded : ∀ p ∈ queryPairs (afterScheme (Text.trim uri.toList)),
      ∃ value, Decodes p.2 value := by
    rw [← hitems]
    intro p hp
    obtain ⟨item, hitem, rfl⟩ := List.mem_map.1 hp
    obtain ⟨_, value, -, hvalue⟩ := decodes_of_addItems hadd hitem
    exact ⟨value, hvalue⟩
  rw [← exists_firstValue_iff hdecoded, has, Option.isSome_iff_exists]
  exact exists_congr fun value => value?_of_parse h name value

/-! ## The query behind a scheme -/

theorem afterScheme_append {before : List Char} (rest : List Char)
    (h : ¬ [':', '/', '/'] <:+: before) :
    afterScheme (before ++ ([':', '/', '/'] ++ rest)) = rest := by
  have hword := Text.splitWord_append (w := ['/', '/']) rest (by decide) h
  simp only [List.cons_append, List.nil_append] at hword ⊢
  rw [afterScheme, hword]

theorem afterScheme_of_markInQuery {uri rest : List Char} (h : MarkInQuery uri rest) :
    afterScheme uri = rest := by
  obtain ⟨before, query, rfl, -, hbefore, hquery⟩ := h
  have hmark : ¬ [':', '/', '/'] <:+: before ++ '?' :: query := by
    rw [Text.infix_append_cons_iff _ _ (by decide)]
    exact not_or.2 ⟨hbefore, hquery⟩
  have hafter := afterScheme_append rest hmark
  rwa [List.append_assoc, List.cons_append] at hafter

theorem queryPairs_append {before : List Char} (rest : List Char) (h : '?' ∉ before) :
    queryPairs (before ++ rest) = queryPairs rest := by
  have hbefore : ∀ c ∈ before, decide (c ≠ '?') = true := fun c hc =>
    decide_eq_true (ne_of_mem_of_not_mem hc h)
  rw [queryPairs, queryPairs, List.dropWhile_append_of_pos hbefore]

theorem queryPairs_afterScheme (uri : List Char) :
    queryPairs (afterScheme uri) = queryPairs uri ∨ ∃ rest, MarkInQuery uri rest := by
  by_cases hmark : [':', '/', '/'] <:+: uri
  · obtain ⟨scheme, rest, rfl, hscheme⟩ := Text.exists_first_infix (by decide) hmark
    by_cases hquestion : '?' ∈ scheme
    · right
      obtain ⟨before, query, rfl, hbefore⟩ := List.eq_append_cons_of_mem hquestion
      rw [Text.infix_append_cons_iff _ _ (by decide), not_or] at hscheme
      exact ⟨rest, before, query, by simp, hbefore, hscheme.1, hscheme.2⟩
    · left
      rw [afterScheme_append rest hscheme, queryPairs_append _ hquestion,
        queryPairs_append rest (by decide)]
  · left
    rw [afterScheme, Text.splitWord_eq_none hmark]

end SshTunnel.Descriptor
