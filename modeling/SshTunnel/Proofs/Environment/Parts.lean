import SshTunnel.Proofs.Environment.Mentions

/-!
# Templates written from parts

A template is written from parts (`Composes`): literal texts, names between braces, names that stand
alone, and dollar signs that start no reference. Every template is, and its path is what the parts
stand for one after the other, with the home directory in the place of a leading tilde
(`expand_of_composes`). A value goes into the path as it is, whatever characters it has.
-/

namespace SshTunnel.Template

/-- A part of which templates are written. -/
inductive Part where
  | literal (s : List Char)
  | braced (name : List Char)
  | bare (name : List Char)
  /-- A dollar sign that starts no reference. -/
  | dollar
  deriving DecidableEq, Repr

def Part.text : Part → List Char
  | literal s => s
  | braced name => '$' :: '{' :: (name ++ ['}'])
  | bare name => '$' :: name
  | dollar => ['$']

def Part.variable? : Part → Option String
  | literal _ | dollar => none
  | braced name | bare name => some (String.ofList name)

def Part.value (env : Environment) : Part → List Char
  | literal s => s
  | braced name | bare name => ((env.var (String.ofList name)).getD "").toList
  | dollar => ['$']

def written (parts : List Part) : List Char :=
  parts.flatMap Part.text

def valueOf (env : Environment) (parts : List Part) : List Char :=
  parts.flatMap (·.value env)

/-- A dollar sign before this text starts no reference. -/
inductive StartsNone : List Char → Prop
  | nil : StartsNone []
  | other (c : Char) (s : List Char) (brace : c ≠ '{') (word : isNameChar c = false) :
      StartsNone (c :: s)
  | unclosed (s : List Char) (unclosed : '}' ∉ s) : StartsNone ('{' :: s)

/-- A part can stand before this text. -/
inductive Part.Precedes : Part → List Char → Prop
  | literal {s rest : List Char} (plain : '$' ∉ s) : Precedes (.literal s) rest
  | braced {name rest : List Char} (closed : '}' ∉ name) : Precedes (.braced name) rest
  | bare {name rest : List Char} (hne : name ≠ []) (word : ∀ c ∈ name, isNameChar c = true)
      (ends : ∀ c, rest.head? = some c → isNameChar c = false) : Precedes (.bare name) rest
  | dollar {rest : List Char} (starts : StartsNone rest) : Precedes .dollar rest

def Composes : List Part → Prop
  | [] => True
  | part :: parts => part.Precedes (written parts) ∧ Composes parts

/-- A tilde stands for the home directory: it is all of the template, or a slash follows it. -/
def StartsAtHome (template : List Char) : Prop :=
  template = ['~'] ∨ ∃ s, template = '~' :: '/' :: s

variable {env env' : Environment} {part : Part} {parts : List Part} {rest template : List Char}

@[simp] theorem written_nil : written [] = [] := rfl

@[simp] theorem written_cons (part : Part) (parts : List Part) :
    written (part :: parts) = part.text ++ written parts := rfl

@[simp] theorem valueOf_nil (env : Environment) : valueOf env [] = [] := rfl

@[simp] theorem valueOf_cons (env : Environment) (part : Part) (parts : List Part) :
    valueOf env (part :: parts) = part.value env ++ valueOf env parts := rfl

/-! ## One part -/

theorem segments_cons_of_ne {c : Char} (h : c ≠ '$') (s : List Char) :
    segments (c :: s) = .char c :: segments s := by
  rw [segments.eq_def]
  exact if_neg h

theorem segments_literal {s : List Char} (plain : '$' ∉ s) (rest : List Char) :
    segments (s ++ rest) = s.map .char ++ segments rest := by
  induction s with
  | nil => rfl
  | cons c s ih =>
      obtain ⟨hc, hs⟩ : c ≠ '$' ∧ '$' ∉ s := by simpa [eq_comm] using plain
      rw [List.cons_append, segments_cons_of_ne hc, ih hs, List.map_cons, List.cons_append]

theorem segments_braced {name : List Char} (closed : '}' ∉ name) (rest : List Char) :
    segments ('$' :: '{' :: (name ++ '}' :: rest)) = .reference name :: segments rest := by
  have hcut : Text.splitFirst (· = '}') (name ++ '}' :: rest) = some (name, rest) :=
    Text.splitFirst_eq_some_iff.2 ⟨closed, rfl⟩
  rw [segments.eq_2, if_pos rfl]
  split
  · next hsome =>
      rw [hcut] at hsome
      obtain ⟨rfl, rfl⟩ := Prod.mk.inj (Option.some.inj hsome)
      rfl
  · next hnone => simp [hcut] at hnone

/-- A name that stands alone reaches up to what follows it. -/
theorem segments_bare {name : List Char} (hne : name ≠ [])
    (word : ∀ c ∈ name, isNameChar c = true)
    (ends : ∀ c, rest.head? = some c → isNameChar c = false) :
    segments ('$' :: (name ++ rest)) = .reference name :: segments rest := by
  have hbrace : ∀ r, name ++ rest = '{' :: r → False := by
    obtain ⟨c, name, rfl⟩ := List.exists_cons_of_ne_nil hne
    rintro r heq
    obtain rfl : c = '{' := (List.cons.inj heq).1
    exact absurd (word '{' List.mem_cons_self) (by decide)
  have hrest : rest.takeWhile isNameChar = [] ∧ rest.dropWhile isNameChar = rest := by
    cases rest with
    | nil => exact ⟨rfl, rfl⟩
    | cons c rest => simp [ends c rfl]
  have hname : (name ++ rest).takeWhile isNameChar = name := by
    rw [List.takeWhile_append_of_pos word, hrest.1, List.append_nil]
  have hdrop : (name ++ rest).dropWhile isNameChar = rest := by
    rw [List.dropWhile_append_of_pos word, hrest.2]
  rw [segments.eq_3 _ _ hbrace, if_pos rfl, hname, hdrop, if_neg hne]

theorem segments_dollar (starts : StartsNone rest) :
    segments ('$' :: rest) = .char '$' :: segments rest := by
  cases starts with
  | nil => rw [segments.eq_3 _ _ (by simp), if_pos rfl, if_pos (by rfl)]
  | other c s brace word =>
      have hbrace : ∀ r, c :: s = '{' :: r → False := fun r heq => brace (List.cons.inj heq).1
      rw [segments.eq_3 _ _ hbrace, if_pos rfl, if_pos (by simp [word])]
  | unclosed s unclosed =>
      rw [segments.eq_2, if_pos rfl]
      split
      · next hsome => simp [Text.splitFirst_eq_none_of_not_mem unclosed] at hsome
      · rfl

theorem Part.Precedes.flatMap_value (h : part.Precedes rest) (env : Environment) :
    (segments (part.text ++ rest)).flatMap (·.value env) =
      part.value env ++ (segments rest).flatMap (·.value env) := by
  cases h with
  | @literal s _ plain =>
      have hvalue : (s.map Segment.char).flatMap (·.value env) = s := by
        simp [List.flatMap_map, Segment.value]
      rw [Part.text, segments_literal plain, List.flatMap_append, hvalue, Part.value]
  | @braced name _ closed =>
      have htext : (Part.braced name).text ++ rest = '$' :: '{' :: (name ++ '}' :: rest) := by
        simp [Part.text]
      rw [htext, segments_braced closed, List.flatMap_cons]
      rfl
  | @bare name _ hne word ends =>
      rw [Part.text, List.cons_append, segments_bare hne word ends, List.flatMap_cons]
      rfl
  | dollar starts =>
      rw [Part.text, List.singleton_append, segments_dollar starts, List.flatMap_cons]
      rfl

/-! ## Templates -/

/-- A template without its tilde is read part by part. -/
theorem Composes.flatMap_value (h : Composes parts) (env : Environment) :
    (segments (written parts)).flatMap (·.value env) = valueOf env parts := by
  induction parts with
  | nil => simp [segments]
  | cons part parts ih =>
      rw [written_cons, h.1.flatMap_value, ih h.2, valueOf_cons]

theorem startsNone_of_takeWhile (hbrace : ∀ r, rest = '{' :: r → False)
    (hword : rest.takeWhile isNameChar = []) : StartsNone rest := by
  cases rest with
  | nil => exact .nil
  | cons c s =>
      have hc : c ≠ '{' := fun heq => hbrace s (by rw [heq])
      exact .other c s hc (by simpa using hword)

theorem exists_composes (template : List Char) :
    ∃ parts, Composes parts ∧ written parts = template := by
  fun_induction segments template with
  | case1 => exact ⟨[], trivial, rfl⟩
  | case2 r name rest hcut ih =>
      obtain ⟨closed, rfl⟩ := Text.splitFirst_eq_some_iff.1 hcut
      obtain ⟨parts, hparts, rfl⟩ := ih
      exact ⟨.braced name :: parts, ⟨.braced closed, hparts⟩, by simp [Part.text]⟩
  | case3 r hcut ih =>
      obtain ⟨parts, hparts, hwritten⟩ := ih
      have hstarts : StartsNone (written parts) :=
        hwritten ▸ .unclosed r (Text.splitFirst_eq_none_iff.1 hcut)
      exact ⟨.dollar :: parts, ⟨.dollar hstarts, hparts⟩, by simp [Part.text, hwritten]⟩
  | case4 s hbrace hword ih =>
      obtain ⟨parts, hparts, rfl⟩ := ih
      exact ⟨.dollar :: parts, ⟨.dollar (startsNone_of_takeWhile hbrace hword), hparts⟩, rfl⟩
  | case5 s hbrace hword ih =>
      obtain ⟨parts, hparts, hwritten⟩ := ih
      have hbare : (Part.bare (s.takeWhile isNameChar)).Precedes (written parts) :=
        .bare hword (fun c hc => List.mem_takeWhile_imp hc)
          fun c hc => Text.eq_false_of_head?_dropWhile (hwritten ▸ hc)
      refine ⟨.bare (s.takeWhile isNameChar) :: parts, ⟨hbare, hparts⟩, ?_⟩
      rw [written_cons, hwritten, Part.text, List.cons_append, List.takeWhile_append_dropWhile]
  | case6 c s hc ih =>
      obtain ⟨parts, hparts, rfl⟩ := ih
      exact ⟨.literal [c] :: parts, ⟨.literal (by simpa [eq_comm] using hc), hparts⟩, rfl⟩

theorem read_of_not_startsAtHome (h : ¬ StartsAtHome template) :
    read template = segments template := by
  rw [read.eq_def]
  split
  · exact absurd (.inl rfl) h
  · exact absurd (.inr ⟨_, rfl⟩) h
  · rfl

/-- The home directory takes the place of the tilde. -/
theorem flatMap_value_of_startsAtHome (h : StartsAtHome template) (env : Environment) :
    ∃ rest, (segments template).flatMap (·.value env) = '~' :: rest ∧
      (read template).flatMap (·.value env) = (env.home.getD "").toList ++ rest := by
  have hhome : (Segment.reference "HOME".toList).value env = (env.home.getD "").toList := by
    rw [Segment.value, String.ofList_toList, Environment.home]
  rcases h with rfl | ⟨s, rfl⟩
  · have hsegments : segments ['~'] = [.char '~'] := by
      rw [segments_cons_of_ne (by decide), segments]
    exact ⟨[], by rw [hsegments]; rfl, by rw [read, List.flatMap_cons, hhome]; rfl⟩
  · refine ⟨(segments ('/' :: s)).flatMap (·.value env), ?_, ?_⟩
    · rw [segments_cons_of_ne (by decide)]
      rfl
    · rw [read, List.flatMap_cons, hhome]

/-- What parts stand for depends on the variables that they refer to. -/
theorem valueOf_congr (h : ∀ part ∈ parts, ∀ name, part.variable? = some name →
    env'.var name = env.var name) : valueOf env' parts = valueOf env parts := by
  refine List.flatMap_congr fun part hpart => ?_
  cases part with
  | literal s => rfl
  | braced name => rw [Part.value, h _ hpart _ rfl, Part.value]
  | bare name => rw [Part.value, h _ hpart _ rfl, Part.value]
  | dollar => rfl

/-- Every template is written from parts, and its path is what they stand for; a tilde at its start
gives way to the home directory. -/
theorem expand_of_composes (template : String) :
    (∃ parts, Composes parts ∧ written parts = template.toList) ∧
      ∀ parts, Composes parts → written parts = template.toList →
        (∀ env, ¬ StartsAtHome template.toList →
          expand env template = String.ofList (valueOf env parts)) ∧
        (∀ env, StartsAtHome template.toList → ∃ rest, valueOf env parts = '~' :: rest ∧
          expand env template = env.home.getD "" ++ String.ofList rest) ∧
        ∀ env env' : Environment,
          (∀ part ∈ parts, ∀ name, part.variable? = some name → env'.var name = env.var name) →
          (StartsAtHome template.toList → env'.home = env.home) →
          expand env' template = expand env template := by
  refine ⟨exists_composes _, fun parts hparts hwritten => ?_⟩
  have hplain : ∀ env, ¬ StartsAtHome template.toList →
      expand env template = String.ofList (valueOf env parts) := by
    intro env hstart
    rw [expand, read_of_not_startsAtHome hstart, ← hwritten, hparts.flatMap_value]
  have hhome : ∀ env, StartsAtHome template.toList → ∃ rest, valueOf env parts = '~' :: rest ∧
      expand env template = env.home.getD "" ++ String.ofList rest := by
    intro env hstart
    obtain ⟨rest, hvalue, hread⟩ := flatMap_value_of_startsAtHome hstart env
    rw [← hwritten, hparts.flatMap_value] at hvalue
    exact ⟨rest, hvalue, by rw [expand, hread, String.ofList_append, String.ofList_toList]⟩
  refine ⟨hplain, hhome, fun env env' hnames hagree => ?_⟩
  have hvalues : valueOf env' parts = valueOf env parts := valueOf_congr hnames
  by_cases hstart : StartsAtHome template.toList
  · obtain ⟨rest, hvalue, hexpand⟩ := hhome env hstart
    obtain ⟨rest', hvalue', hexpand'⟩ := hhome env' hstart
    obtain rfl : rest' = rest := by
      rw [hvalues, hvalue] at hvalue'
      exact (List.cons.inj hvalue').2.symm
    rw [hexpand', hexpand, hagree hstart]
  · rw [hplain env hstart, hplain env' hstart, hvalues]

/-- Values with dollar signs, tildes and braces, and a brace that nothing closes. -/
theorem expand_of_composes_mixed :
    let template := "~/$\x7bÄ\x7d$B-$$B-$\x7bopen"
    let parts : List Part := [.literal "~/".toList, .braced "Ä".toList, .bare "B".toList,
      .literal "-".toList, .dollar, .bare "B".toList, .literal "-".toList, .dollar,
      .literal "\x7bopen".toList]
    let env : Environment := { vars := [("HOME", "/h$B"), ("Ä", "\x7d~$B"), ("B", "$\x7bÄ\x7d")] }
    Composes parts ∧ written parts = template.toList ∧ StartsAtHome template.toList ∧
      expand env template = "/h$B/\x7d~$B$\x7bÄ\x7d-$$\x7bÄ\x7d-$\x7bopen" := by
  intro template parts env
  have hword : ∀ c ∈ "B".toList, isNameChar c = true := List.all_eq_true.1 (by decide)
  have hparts : Composes parts := by
    refine ⟨.literal (by decide), .braced (by decide), .bare (by decide) hword ?_,
      .literal (by decide), .dollar (.other _ _ (by decide) (by decide)),
      .bare (by decide) hword ?_, .literal (by decide), .dollar (.unclosed _ (by decide)),
      .literal (by decide), trivial⟩
    all_goals
      rintro c hc
      obtain rfl : '-' = c := Option.some.inj hc
      decide
  have hwritten : written parts = template.toList := by decide
  have hstart : StartsAtHome template.toList := .inr ⟨_, hwritten.symm⟩
  obtain ⟨rest, hvalue, hexpand⟩ :=
    ((expand_of_composes template).2 parts hparts hwritten).2.1 env hstart
  obtain rfl : "/\x7d~$B$\x7bÄ\x7d-$$\x7bÄ\x7d-$\x7bopen".toList = rest := by
    have hvalues : valueOf env parts =
        '~' :: "/\x7d~$B$\x7bÄ\x7d-$$\x7bÄ\x7d-$\x7bopen".toList := by decide
    exact (List.cons.inj (hvalues.symm.trans hvalue)).2
  refine ⟨hparts, hwritten, hstart, ?_⟩
  rw [hexpand, String.ofList_toList]
  decide

end SshTunnel.Template
