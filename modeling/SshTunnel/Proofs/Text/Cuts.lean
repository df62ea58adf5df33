import Mathlib.Data.List.TakeWhile
import SshTunnel.Text.Split

/-!
# Cuts in terms of the library

Cutting a text at every character of a kind is `List.splitOn`; cutting it at the first one is
`takeWhile` on one side and what is left of `dropWhile` on the other. A cut at the first or last
`c` gives `a` and `b` iff the text is `a ++ c :: b` with no `c` on the side that was searched.
Trimming stops at the first character that is not blank, and a text without line feeds is one line.
A text that is cut in the middle has the words, and after a line feed the lines, of its two parts.
-/

namespace SshTunnel.Text

theorem eq_false_of_head?_dropWhile {p : Char → Bool} {s : List Char} {c : Char}
    (h : (s.dropWhile p).head? = some c) : p c = false := by
  have hhead := List.head?_dropWhile_not p s
  rw [h] at hhead
  exact hhead

theorem splitEvery_eq_splitOn (c : Char) (s : List Char) : splitEvery (· = c) s = s.splitOn c := by
  induction s with
  | nil => rfl
  | cons x s ih =>
      rw [splitEvery, List.splitOn_cons_eq_if_modifyHead, ← ih]
      by_cases hx : x = c
      · simp [hx]
      · cases hs : splitEvery (· = c) s with
        | nil => exact absurd hs (splitEvery_ne_nil _ s)
        | cons piece pieces => simp [hx]

theorem not_mem_of_mem_splitOn {c : Char} {s piece : List Char} (h : piece ∈ s.splitOn c) :
    c ∉ piece := by
  induction s generalizing piece with
  | nil =>
      obtain rfl : piece = [] := by simpa using h
      exact List.not_mem_nil
  | cons x s ih =>
      obtain ⟨first, rest, hs⟩ := List.exists_cons_of_ne_nil (List.splitOn_ne_nil c s)
      rw [List.splitOn_cons_eq_if_modifyHead, hs] at h
      rw [hs] at ih
      by_cases hx : x = c
      · have hpiece : piece = [] ∨ piece ∈ first :: rest := by simpa [hx] using h
        rcases hpiece with rfl | hpiece
        · exact List.not_mem_nil
        · exact ih hpiece
      · have hpiece : piece = x :: first ∨ piece ∈ rest := by simpa [hx] using h
        rcases hpiece with rfl | hpiece
        · simp [Ne.symm hx, ih List.mem_cons_self]
        · exact ih (List.mem_cons_of_mem _ hpiece)

/-- The pieces on either side of a cut are cut by themselves. -/
theorem splitEvery_append_cons {p : Char → Bool} {c : Char} (a b : List Char) (h : p c = true) :
    splitEvery p (a ++ c :: b) = splitEvery p a ++ splitEvery p b := by
  induction a with
  | nil =>
      have hcut : splitEvery p (c :: b) = [] :: splitEvery p b := if_pos h
      rw [List.nil_append, hcut, splitEvery, List.singleton_append]
  | cons x a ih =>
      rw [List.cons_append, splitEvery, splitEvery, ih]
      by_cases hx : p x = true
      · rw [if_pos hx, if_pos hx, List.cons_append]
      · obtain ⟨piece, pieces, ha⟩ := List.exists_cons_of_ne_nil (splitEvery_ne_nil p a)
        rw [if_neg hx, if_neg hx, ha]
        rfl

theorem splitFirst_eq_some_of_mem {c : Char} {s : List Char} (h : c ∈ s) :
    splitFirst (· = c) s = some (s.takeWhile (· ≠ c), (s.dropWhile (· ≠ c)).tail) := by
  induction s with
  | nil => simp at h
  | cons x s ih =>
      rw [splitFirst_cons]
      by_cases hx : x = c
      · simp [hx]
      · have hmem : c ∈ s := by simpa [Ne.symm hx] using h
        simp [hx, ih hmem]

theorem splitFirst_eq_none_of_not_mem {c : Char} {s : List Char} (h : c ∉ s) :
    splitFirst (· = c) s = none := by
  apply splitFirst_eq_none
  intro x hx
  have hne : x ≠ c := fun hxc => h (hxc ▸ hx)
  simpa using hne

theorem takeWhile_ne_eq_self {c : Char} {s : List Char} (h : c ∉ s) : s.takeWhile (· ≠ c) = s := by
  rw [List.takeWhile_eq_self_iff]
  intro x hx
  have hne : x ≠ c := fun hxc => h (hxc ▸ hx)
  simpa using hne

theorem takeWhile_ne_append {c : Char} {a : List Char} (b : List Char) (h : c ∉ a) :
    (a ++ b).takeWhile (· ≠ c) = a ++ b.takeWhile (· ≠ c) := by
  apply List.takeWhile_append_of_pos
  intro x hx
  simpa using ne_of_mem_of_not_mem hx h

theorem splitOptional_fst (c : Char) (s : List Char) :
    (splitOptional c s).1 = s.takeWhile (· ≠ c) := by
  rw [splitOptional]
  by_cases h : c ∈ s
  · rw [splitFirst_eq_some_of_mem h]
  · rw [splitFirst_eq_none_of_not_mem h, takeWhile_ne_eq_self h]

theorem splitOptional_snd_getD (c : Char) (s : List Char) :
    (splitOptional c s).2.getD [] = (s.dropWhile (· ≠ c)).tail := by
  rw [splitOptional]
  by_cases h : c ∈ s
  · rw [splitFirst_eq_some_of_mem h]
    rfl
  · have hdrop : s.dropWhile (· ≠ c) = [] := by
      have happ := List.takeWhile_append_dropWhile (p := (· ≠ c)) (l := s)
      rw [takeWhile_ne_eq_self h] at happ
      simpa using happ
    rw [splitFirst_eq_none_of_not_mem h, hdrop]
    rfl

/-! ## What is on either side -/

theorem splitFirst_eq_some_iff {c : Char} {s a b : List Char} :
    splitFirst (· = c) s = some (a, b) ↔ c ∉ a ∧ s = a ++ c :: b := by
  constructor
  · intro h
    have hmem : c ∈ s := by
      by_contra hmem
      simp [splitFirst_eq_none_of_not_mem hmem] at h
    obtain ⟨a', b', rfl, ha'⟩ := List.eq_append_cons_of_mem hmem
    rw [splitFirst_append_cons b' (fun x hx => by simpa using ne_of_mem_of_not_mem hx ha')
      (by simp)] at h
    obtain ⟨rfl, rfl⟩ : a' = a ∧ b' = b := by simpa using h
    exact ⟨ha', rfl⟩
  · rintro ⟨ha, rfl⟩
    refine splitFirst_append_cons b (fun x hx => ?_) (by simp)
    simpa using ne_of_mem_of_not_mem hx ha

theorem splitFirst_eq_none_iff {c : Char} {s : List Char} :
    splitFirst (· = c) s = none ↔ c ∉ s := by
  refine ⟨fun h hmem => ?_, splitFirst_eq_none_of_not_mem⟩
  simp [splitFirst_eq_some_of_mem hmem] at h

theorem splitLast_eq_some_iff {c : Char} {s a b : List Char} :
    splitLast (· = c) s = some (a, b) ↔ c ∉ b ∧ s = a ++ c :: b := by
  rw [splitLast, Option.map_eq_some_iff]
  constructor
  · rintro ⟨⟨x, y⟩, h, heq⟩
    obtain ⟨hx, hs⟩ := splitFirst_eq_some_iff.1 h
    obtain ⟨rfl, rfl⟩ : y.reverse = a ∧ x.reverse = b := by simpa using heq
    have hrev : s = (x ++ c :: y).reverse := by rw [← hs, List.reverse_reverse]
    exact ⟨by simpa using hx, by simpa using hrev⟩
  · rintro ⟨hb, rfl⟩
    exact ⟨(b.reverse, a.reverse), splitFirst_eq_some_iff.2 ⟨by simpa using hb, by simp⟩, by simp⟩

theorem splitLast_eq_none_iff {c : Char} {s : List Char} :
    splitLast (· = c) s = none ↔ c ∉ s := by
  rw [splitLast, Option.map_eq_none_iff, splitFirst_eq_none_iff, List.mem_reverse]

theorem first_cut_inj {c : Char} {a b a' b' : List Char} (h : c ∉ a) (h' : c ∉ a') :
    a ++ c :: b = a' ++ c :: b' ↔ a = a' ∧ b = b' := by
  constructor
  · intro heq
    have hcut : splitFirst (· = c) (a ++ c :: b) = some (a, b) :=
      splitFirst_eq_some_iff.2 ⟨h, rfl⟩
    have hcut' : splitFirst (· = c) (a ++ c :: b) = some (a', b') :=
      splitFirst_eq_some_iff.2 ⟨h', heq⟩
    simpa using hcut.symm.trans hcut'
  · rintro ⟨rfl, rfl⟩
    rfl

theorem last_cut_inj {c : Char} {a b a' b' : List Char} (h : c ∉ b) (h' : c ∉ b') :
    a ++ c :: b = a' ++ c :: b' ↔ a = a' ∧ b = b' := by
  constructor
  · intro heq
    have hcut : splitLast (· = c) (a ++ c :: b) = some (a, b) :=
      splitLast_eq_some_iff.2 ⟨h, rfl⟩
    have hcut' : splitLast (· = c) (a ++ c :: b) = some (a', b') :=
      splitLast_eq_some_iff.2 ⟨h', heq⟩
    simpa using hcut.symm.trans hcut'
  · rintro ⟨rfl, rfl⟩
    rfl

theorem splitOptional_of_not_mem {c : Char} {s : List Char} (h : c ∉ s) :
    splitOptional c s = (s, none) := by
  rw [splitOptional, splitFirst_eq_none_iff.2 h]

theorem splitOptional_append_cons {c : Char} {a : List Char} (b : List Char) (h : c ∉ a) :
    splitOptional c (a ++ c :: b) = (a, some b) := by
  rw [splitOptional, splitFirst_eq_some_iff.2 ⟨h, rfl⟩]

theorem splitOptional_append {c : Char} {a : List Char} (b : List Char) (h : c ∉ a) :
    splitOptional c (a ++ b) = (a ++ (splitOptional c b).1, (splitOptional c b).2) := by
  by_cases hb : c ∈ b
  · obtain ⟨x, y, rfl, hx⟩ := List.eq_append_cons_of_mem hb
    rw [splitOptional_append_cons y hx, ← List.append_assoc,
      splitOptional_append_cons y (by simp [h, hx])]
  · rw [splitOptional_of_not_mem hb, splitOptional_of_not_mem (by simp [h, hb])]

theorem not_infix_of_not_mem {c : Char} {w a : List Char} (h : c ∉ a) : ¬ (c :: w) <:+: a :=
  fun hwithin => h (hwithin.subset (by simp))

/-- A word that does not run into itself is found right after a text in which it does not occur. -/
theorem splitWord_append {c : Char} {w a : List Char} (b : List Char) (hw : c ∉ w)
    (h : ¬ (c :: w) <:+: a) : splitWord (c :: w) (a ++ (c :: w ++ b)) = some (a, b) := by
  induction a with
  | nil =>
      have hpre : (c :: w).isPrefixOf (c :: (w ++ b)) = true := by simp
      rw [List.nil_append, List.cons_append, splitWord, if_pos hpre, ← List.cons_append,
        List.drop_left]
  | cons x a ih =>
      have hx : ¬ (c :: w).isPrefixOf (x :: (a ++ (c :: w ++ b))) = true := by
        rw [List.isPrefixOf_iff_prefix]
        rintro ⟨t, ht⟩
        rw [List.cons_append, List.cons.injEq] at ht
        obtain ⟨rfl, ht⟩ := ht
        -- the word would end within the text, or its first character occur again in it
        rcases List.append_eq_append_iff.1 ht with ⟨u, rfl, -⟩ | ⟨u, rfl, hu⟩
        · exact h ⟨[], u, by simp⟩
        · cases u with
          | nil => exact h ⟨[], [], by simp⟩
          | cons d u =>
              obtain rfl : c = d := (List.cons.inj hu).1
              simp at hw
      have ha : ¬ (c :: w) <:+: a := fun hwithin => h (List.infix_cons hwithin)
      rw [List.cons_append, splitWord, if_neg hx, ih ha]
      rfl

theorem splitWord_eq_none {w s : List Char} (h : ¬ w <:+: s) : splitWord w s = none := by
  induction s with
  | nil =>
      rw [splitWord, if_neg]
      rintro rfl
      exact h (List.infix_refl _)
  | cons c s ih =>
      have hpre : ¬ w.isPrefixOf (c :: s) = true := fun hpre =>
        h (List.isPrefixOf_iff_prefix.1 hpre).isInfix
      rw [splitWord, if_neg hpre, ih fun hwithin => h (List.infix_cons hwithin)]
      rfl

/-- A word stands on one side of a character that does not occur in it. -/
theorem infix_append_cons_iff {c : Char} {w : List Char} (a b : List Char) (hw : c ∉ w) :
    w <:+: a ++ c :: b ↔ w <:+: a ∨ w <:+: b := by
  have hfront {v : List Char} (hv : c ∉ v) (h : v <+: c :: b) : v = [] := by
    cases v with
    | nil => rfl
    | cons x v =>
        obtain rfl : x = c := (List.cons_prefix_cons.1 h).1
        simp at hv
  constructor
  · intro h
    rcases List.infix_append_iff.1 h with h | h | ⟨u, v, rfl, hu, hv⟩
    · exact .inl h
    · rcases List.infix_cons_iff.1 h with h | h
      · exact .inr (hfront hw h ▸ List.nil_infix)
      · exact .inr h
    · obtain rfl := hfront (fun hmem => hw (List.mem_append_right u hmem)) hv
      exact .inl (by simpa using hu.isInfix)
  · rintro (h | h)
    · exact h.trans (List.prefix_append a _).isInfix
    · exact h.trans ⟨a ++ [c], [], by simp⟩

/-- A word that occurs in a text has a first place there. -/
theorem exists_first_infix {w s : List Char} (hne : w ≠ []) (h : w <:+: s) :
    ∃ a b, s = a ++ (w ++ b) ∧ ¬ w <:+: a := by
  induction s with
  | nil => exact absurd (List.infix_nil.1 h) hne
  | cons x s ih =>
      by_cases hfront : w <+: x :: s
      · obtain ⟨b, hb⟩ := hfront
        exact ⟨[], b, hb.symm, fun h => hne (List.infix_nil.1 h)⟩
      · obtain ⟨a, b, rfl, ha⟩ := ih ((List.infix_cons_iff.1 h).resolve_left hfront)
        refine ⟨x :: a, b, rfl, fun hwithin => ?_⟩
        rcases List.infix_cons_iff.1 hwithin with hpre | hwithin
        · exact hfront (hpre.trans ⟨w ++ b, rfl⟩)
        · exact ha hwithin

/-! ## Blank ends -/

theorem trimStart_append_cons {c : Char} (a b : List Char) (h : isBlank c = false) :
    trimStart (a ++ c :: b) = trimStart a ++ c :: b := by
  induction a with
  | nil => rw [List.nil_append, trimStart_cons_of_not_blank b h, trimStart_nil, List.nil_append]
  | cons x a ih =>
      rw [List.cons_append]
      cases hx : isBlank x with
      | true => rw [trimStart_cons_of_blank _ hx, trimStart_cons_of_blank _ hx, ih]
      | false =>
          rw [trimStart_cons_of_not_blank _ hx, trimStart_cons_of_not_blank _ hx, List.cons_append]

theorem trimEnd_eq_reverse (s : List Char) : trimEnd s = (trimStart s.reverse).reverse := rfl

theorem trimEnd_append_cons {c : Char} (a b : List Char) (h : isBlank c = false) :
    trimEnd (a ++ c :: b) = a ++ c :: trimEnd b := by
  have hrev : (a ++ c :: b).reverse = b.reverse ++ c :: a.reverse := by simp
  rw [trimEnd_eq_reverse, hrev, trimStart_append_cons _ _ h, trimEnd_eq_reverse]
  simp

theorem trimEnd_append {s : List Char} (a b : List Char) (hs : s ≠ [])
    (h : ∀ c ∈ s, isBlank c = false) : trimEnd (a ++ s ++ b) = a ++ s ++ trimEnd b := by
  have hassoc (x : List Char) :
      a ++ s ++ x = (a ++ s.dropLast) ++ s.getLast hs :: x := by
    conv => lhs; rw [← List.dropLast_concat_getLast hs]
    simp
  rw [hassoc, trimEnd_append_cons _ _ (h _ (List.getLast_mem hs)), hassoc]

theorem mem_of_mem_trimStart {c : Char} {s : List Char} (h : c ∈ trimStart s) : c ∈ s :=
  (List.dropWhile_suffix isBlank).subset h

theorem mem_of_mem_trimEnd {c : Char} {s : List Char} (h : c ∈ trimEnd s) : c ∈ s := by
  rw [trimEnd_eq_reverse, List.mem_reverse] at h
  exact List.mem_reverse.1 (mem_of_mem_trimStart h)

theorem trim_infix (s : List Char) : trim s <:+: s := by
  have hend : trimEnd (trimStart s) <+: trimStart s := by
    rw [trimEnd_eq_reverse, ← List.reverse_suffix, List.reverse_reverse]
    exact List.dropWhile_suffix isBlank
  exact hend.isInfix.trans (List.dropWhile_suffix isBlank).isInfix

/-! ### Blanks around a text -/

/-- A text that neither starts nor ends with a blank. -/
def IsTight (s : List Char) : Prop :=
  (∀ c, s.head? = some c → isBlank c = false) ∧ ∀ c, s.getLast? = some c → isBlank c = false

theorem trimStart_append_of_blank {a : List Char} (s : List Char)
    (ha : ∀ c ∈ a, isBlank c = true) : trimStart (a ++ s) = trimStart s :=
  List.dropWhile_append_of_pos ha

theorem trimEnd_append_of_blank {b : List Char} (s : List Char)
    (hb : ∀ c ∈ b, isBlank c = true) : trimEnd (s ++ b) = trimEnd s := by
  have hrev : ∀ c ∈ b.reverse, isBlank c = true := fun c hc => hb c (List.mem_reverse.1 hc)
  rw [trimEnd_eq_reverse, List.reverse_append, trimStart_append_of_blank _ hrev,
    ← trimEnd_eq_reverse]

theorem trim_append_of_blank {b : List Char} (s : List Char)
    (hb : ∀ c ∈ b, isBlank c = true) : trim (s ++ b) = trim s := by
  by_cases hs : trimStart s = []
  · have hall : ∀ c ∈ s, isBlank c = true := List.dropWhile_eq_nil_iff.1 hs
    have hb' : trimStart b = [] := List.dropWhile_eq_nil_iff.2 hb
    rw [trim, trim, trimStart_append_of_blank _ hall, hs, hb']
  · have happend : trimStart (s ++ b) = trimStart s ++ b := by
      rw [trimStart, List.dropWhile_append, if_neg (by simpa [trimStart] using hs), ← trimStart]
    rw [trim, trim, happend, trimEnd_append_of_blank _ hb]

theorem trimStart_eq_self {s : List Char} (h : ∀ c, s.head? = some c → isBlank c = false) :
    trimStart s = s := by
  cases s with
  | nil => rfl
  | cons c s => exact trimStart_cons_of_not_blank s (h c rfl)

theorem trimEnd_eq_self_of_getLast? {s : List Char}
    (h : ∀ c, s.getLast? = some c → isBlank c = false) : trimEnd s = s := by
  have hrev : trimStart s.reverse = s.reverse :=
    trimStart_eq_self fun c hc => h c (by rwa [List.head?_reverse] at hc)
  rw [trimEnd_eq_reverse, hrev, List.reverse_reverse]

theorem trimEnd_eq_self {s : List Char} (h : ∀ c ∈ s, isBlank c = false) : trimEnd s = s :=
  trimEnd_eq_self_of_getLast? fun c hc => h c (List.mem_of_getLast? hc)

theorem IsTight.trim_eq {s : List Char} (h : IsTight s) : trim s = s := by
  rw [trim, trimStart_eq_self h.1, trimEnd_eq_self_of_getLast? h.2]

theorem IsTight.trim_append {a s b : List Char} (h : IsTight s)
    (ha : ∀ c ∈ a, isBlank c = true) (hb : ∀ c ∈ b, isBlank c = true) :
    trim (a ++ s ++ b) = s := by
  rw [trim_append_of_blank _ hb, trim, trimStart_append_of_blank _ ha, ← trim, h.trim_eq]

theorem exists_trim_between (s : List Char) : ∃ a b, s = a ++ trim s ++ b ∧
    (∀ c ∈ a, isBlank c = true) ∧ ∀ c ∈ b, isBlank c = true := by
  refine ⟨s.takeWhile isBlank, ((trimStart s).reverse.takeWhile isBlank).reverse, ?_,
    fun c hc => List.mem_takeWhile_imp hc,
    fun c hc => List.mem_takeWhile_imp (List.mem_reverse.1 hc)⟩
  have hend : trim s ++ ((trimStart s).reverse.takeWhile isBlank).reverse = trimStart s := by
    rw [trim, trimEnd, ← List.reverse_append, List.takeWhile_append_dropWhile,
      List.reverse_reverse]
  rw [List.append_assoc, hend, trimStart, List.takeWhile_append_dropWhile]

theorem trim_eq_nil_iff {s : List Char} : trim s = [] ↔ ∀ c ∈ s, isBlank c = true := by
  constructor
  · intro h
    obtain ⟨a, b, hs, ha, hb⟩ := exists_trim_between s
    rw [h, List.append_nil] at hs
    rw [hs]
    exact List.forall_mem_append.2 ⟨ha, hb⟩
  · intro h
    simpa using trim_append_of_blank [] h

/-- A character that is not blank is the first of a trimmed text iff only blanks precede it. -/
theorem head?_trim_eq_some_iff {c : Char} {s : List Char} (hc : isBlank c = false) :
    (trim s).head? = some c ↔ ∃ a b, s = a ++ c :: b ∧ ∀ x ∈ a, isBlank x = true := by
  constructor
  · intro h
    obtain ⟨t, ht⟩ := List.head?_eq_some_iff.1 h
    obtain ⟨a, b, hs, ha, -⟩ := exists_trim_between s
    exact ⟨a, t ++ b, by rw [hs, ht, List.append_assoc, List.cons_append], ha⟩
  · rintro ⟨a, b, rfl, ha⟩
    have htrim := trimEnd_append_cons [] b hc
    rw [List.nil_append, List.nil_append] at htrim
    rw [trim, trimStart_append_of_blank _ ha, trimStart_cons_of_not_blank _ hc, htrim,
      List.head?_cons]

/-! ## Words -/

theorem words_append_cons {c : Char} (a b : List Char) (h : isBlank c = true) :
    words (a ++ c :: b) = words a ++ words b := by
  rw [words, splitEvery_append_cons a b h, List.filter_append, words, words]

@[simp] theorem words_nil : words [] = [] := by decide

theorem words_blank_append {a : List Char} (b : List Char) (h : ∀ c ∈ a, isBlank c = true) :
    words (a ++ b) = words b := by
  induction a with
  | nil => rw [List.nil_append]
  | cons c a ih =>
      have hcut := words_append_cons [] (a ++ b) (h c (by simp))
      rw [List.nil_append, words_nil, List.nil_append] at hcut
      rw [List.cons_append, hcut, ih fun d hd => h d (List.mem_cons_of_mem _ hd)]

theorem words_append_of_blank (a : List Char) {b : List Char} (h : ∀ c ∈ b, isBlank c = true) :
    words (a ++ b) = words a := by
  cases b with
  | nil => rw [List.append_nil]
  | cons c b =>
      have hb : words b = [] := by
        rw [← List.append_nil b, words_blank_append [] fun d hd => h d (List.mem_cons_of_mem _ hd),
          words_nil]
      rw [words_append_cons a b (h c (by simp)), hb, List.append_nil]

theorem words_trim (s : List Char) : words (trim s) = words s := by
  obtain ⟨a, b, hs, ha, hb⟩ := exists_trim_between s
  conv => rhs; rw [hs]
  rw [words_append_of_blank _ hb, words_blank_append _ ha]

/-! ## Lines -/

theorem trim_chompReturn (line : List Char) : trim (chompReturn line) = trim line := by
  rw [chompReturn]
  split
  · next h =>
      obtain ⟨init, rfl⟩ := List.getLast?_eq_some_iff.1 h
      rw [List.dropLast_concat, trim_append_of_blank]
      simp [isBlank]
  · rfl

theorem lines_of_not_mem {s : List Char} (hne : s ≠ []) (h : '\n' ∉ s) : lines s = [s] := by
  rw [lines, splitEvery_eq_splitOn, List.splitOn_eq_singleton h]
  simp [hne]

theorem lines_append_newline {s : List Char} (h : '\n' ∉ s) :
    lines (s ++ ['\n']) = [chompReturn s] := by
  rw [lines, splitEvery_eq_splitOn, List.splitOn_append_cons_self_of_not_mem h, List.splitOn_nil]
  simp

/-- The lines after a line feed are counted by themselves. -/
theorem lines_append {a : List Char} (b : List Char) (h : a = [] ∨ a.getLast? = some '\n') :
    lines (a ++ b) = lines a ++ lines b := by
  rcases h with rfl | h
  · simp [lines, splitEvery]
  · obtain ⟨init, rfl⟩ := List.getLast?_eq_some_iff.1 h
    have hcut (s : List Char) : lines (init ++ '\n' :: s) =
        (splitEvery (· = '\n') init).map chompReturn ++ lines s := by
      have hne := splitEvery_ne_nil (· = '\n') s
      rw [lines, splitEvery_append_cons init s (by simp), lines,
        List.dropLast_append_of_ne_nil hne, List.map_append, List.append_assoc,
        List.getLast?_append, List.getLast?_eq_some_getLast hne, Option.some_or]
    rw [List.append_assoc, List.singleton_append, hcut b, hcut [], List.append_assoc]
    simp [lines, splitEvery]

end SshTunnel.Text
