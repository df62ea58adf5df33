import Mathlib
import SshTunnel.Glob

/-!
# The language of a pattern

`language pattern` is what a pattern stands for: any text for a star, any one character for a
question mark, itself for every other character. The greedy match takes in texts of this language
only. It takes in all of them that hold no star, although it does not go back beyond the last star
of the pattern: wherever the part before that star fits, it fits as early as it does (`Stops` tells
where pattern and text part).
-/

namespace SshTunnel.Glob

def symbol (x : Char) : Language Char :=
  {w | if x = '*' then True else if x = '?' then w.length = 1 else w = [x]}

def language (pattern : List Char) : Language Char :=
  (pattern.map symbol).prod

variable {p p' h h' q g u v w rest : List Char} {x c : Char}

theorem mem_symbol :
    w ∈ symbol x ↔ if x = '*' then True else if x = '?' then w.length = 1 else w = [x] :=
  Iff.rfl

@[simp] theorem mem_language_nil : w ∈ language [] ↔ w = [] := by
  rw [language, List.map_nil, List.prod_nil, Language.mem_one]

theorem mem_language_cons :
    w ∈ language (x :: p) ↔ ∃ a ∈ symbol x, ∃ b ∈ language p, a ++ b = w := by
  rw [language, List.map_cons, List.prod_cons]
  exact Language.mem_mul

theorem mem_language_star : w ∈ language ('*' :: p) ↔ ∃ v, v <:+ w ∧ v ∈ language p := by
  rw [mem_language_cons]
  constructor
  · rintro ⟨a, -, b, hb, rfl⟩
    exact ⟨b, List.suffix_append a b, hb⟩
  · rintro ⟨v, ⟨a, rfl⟩, hv⟩
    exact ⟨a, mem_symbol.2 trivial, v, hv, rfl⟩

/-- A character of the pattern that is no star can stand for a character of the text. -/
def Agrees (x c : Char) : Prop :=
  x = '?' ∨ x = c

theorem mem_symbol_of_ne (hx : x ≠ '*') : w ∈ symbol x ↔ ∃ c, w = [c] ∧ Agrees x c := by
  rw [mem_symbol, if_neg hx]
  by_cases hmark : x = '?'
  · rw [if_pos hmark, List.length_eq_one_iff]
    simp [Agrees, hmark]
  · rw [if_neg hmark]
    simp [Agrees, hmark]

theorem mem_language_cons_of_ne (hx : x ≠ '*') :
    w ∈ language (x :: p) ↔ ∃ c v, w = c :: v ∧ Agrees x c ∧ v ∈ language p := by
  rw [mem_language_cons]
  constructor
  · rintro ⟨a, ha, b, hb, rfl⟩
    obtain ⟨c, rfl, hxc⟩ := (mem_symbol_of_ne hx).1 ha
    exact ⟨c, b, rfl, hxc, hb⟩
  · rintro ⟨c, v, rfl, hxc, hv⟩
    exact ⟨[c], (mem_symbol_of_ne hx).2 ⟨c, rfl, hxc⟩, v, hv, rfl⟩

theorem nil_mem_language_iff : [] ∈ language p ↔ onlyStars p = true := by
  induction p with
  | nil => simp [onlyStars]
  | cons x p ih =>
      rw [onlyStars, List.all_cons, Bool.and_eq_true, ← onlyStars, ← ih, decide_eq_true_eq]
      by_cases hx : x = '*'
      · subst hx
        simp [mem_language_star]
      · simp [mem_language_cons_of_ne hx, hx]

/-! ## Where pattern and text part -/

/-- What has been gone through side by side: text that the pattern agrees with. -/
def Along (q g : List Char) : Prop :=
  List.Forall₂ Agrees q g

/-- Where going along ends, and in what way. -/
inductive Stops : List Char → List Char → Progress → Prop
  | hostEnd (p : List Char) : Stops p [] (.hostEnd p)
  | patternEnd (c : Char) (h : List Char) : Stops [] (c :: h) .stuck
  | star {c : Char} (p h : List Char) (hc : c ≠ '*') :
      Stops ('*' :: p) (c :: h) (.star p (c :: h))
  | differ {x c : Char} (p h : List Char) (hx : x ≠ '*') (hxc : ¬ Agrees x c) :
      Stops (x :: p) (c :: h) .stuck

theorem Stops.advance_eq {r : Progress} (h : Stops p g r) : advance p g = r := by
  cases h with
  | hostEnd => rw [advance]
  | patternEnd => rw [advance]
  | star p h hc => simp [advance, hc.symm]
  | differ p h hx hxc =>
      rw [Agrees] at hxc
      simp [advance, hx, hxc]

theorem Along.advance_append (hqg : Along q g) (p h : List Char) :
    advance (q ++ p) (g ++ h) = advance p h := by
  induction hqg with
  | nil => rfl
  | cons hxc _ ih =>
      rw [List.cons_append, List.cons_append, advance, ih]
      exact if_pos hxc

theorem exists_stops (p h : List Char) :
    ∃ q g p' h', Along q g ∧ p = q ++ p' ∧ h = g ++ h' ∧ Stops p' h' (advance p h) := by
  induction p generalizing h with
  | nil =>
      cases h with
      | nil => exact ⟨[], [], [], [], .nil, rfl, rfl, .hostEnd []⟩
      | cons c h => exact ⟨[], [], [], c :: h, .nil, rfl, rfl, .patternEnd c h⟩
  | cons x p ih =>
      cases h with
      | nil => exact ⟨[], [], x :: p, [], .nil, rfl, rfl, .hostEnd _⟩
      | cons c h =>
          by_cases hxc : Agrees x c
          · obtain ⟨q, g, p', h', hqg, rfl, rfl, hstops⟩ := ih h
            have hpass : advance (x :: (q ++ p')) (c :: (g ++ h')) = advance (q ++ p') (g ++ h') :=
              Along.advance_append (.cons hxc .nil) _ _
            exact ⟨x :: q, c :: g, p', h', .cons hxc hqg, rfl, rfl, hpass ▸ hstops⟩
          · refine ⟨[], [], x :: p, c :: h, .nil, rfl, rfl, ?_⟩
            by_cases hx : x = '*'
            · subst hx
              have hstops := Stops.star p h fun hc => hxc (.inr hc.symm)
              rwa [hstops.advance_eq]
            · have hstops := Stops.differ p h hx hxc
              rwa [hstops.advance_eq]

theorem suffix_of_star (hadvance : advance p h = .star p' h') : h' <:+ h := by
  obtain ⟨q, g, _, _, -, rfl, rfl, hstops⟩ := exists_stops p h
  rw [hadvance] at hstops
  cases hstops with
  | star => exact List.suffix_append g _

/-! ## What a match comes to -/

theorem afterStar_of_hostEnd (hadvance : advance p h = .hostEnd rest) :
    afterStar p h = onlyStars rest := by
  rw [afterStar]
  split <;> simp_all

theorem afterStar_of_star (hadvance : advance p h = .star p' h') :
    afterStar p h = afterStar p' h' := by
  rw [afterStar]
  split <;> simp_all

theorem afterStar_of_stuck (hadvance : advance p (c :: h) = .stuck) :
    afterStar p (c :: h) = afterStar p h := by
  rw [afterStar]
  split <;> simp_all

/-! ## Texts that are taken in -/

theorem Along.append_mem_language (hqg : Along q g) (hw : w ∈ language p) :
    g ++ w ∈ language (q ++ p) := by
  induction hqg with
  | nil => exact hw
  | @cons x c q g hxc _ ih =>
      rw [List.cons_append, List.cons_append]
      by_cases hx : x = '*'
      · -- a star that faces a star stands for it
        subst hx
        exact mem_language_star.2 ⟨_, List.suffix_cons c _, ih⟩
      · exact (mem_language_cons_of_ne hx).2 ⟨c, _, rfl, hxc, ih⟩

theorem mem_language_of_hostEnd (hadvance : advance p h = .hostEnd rest)
    (hrest : onlyStars rest = true) : h ∈ language p := by
  obtain ⟨q, g, p', h', hqg, rfl, rfl, hstops⟩ := exists_stops p h
  rw [hadvance] at hstops
  cases hstops with
  | hostEnd => exact hqg.append_mem_language (nil_mem_language_iff.2 hrest)

theorem mem_language_of_star (hadvance : advance p h = .star p' h') (hv : v ∈ language p')
    (hsuffix : v <:+ h') : h ∈ language p := by
  obtain ⟨q, g, _, _, hqg, rfl, rfl, hstops⟩ := exists_stops p h
  rw [hadvance] at hstops
  cases hstops with
  | star => exact hqg.append_mem_language (mem_language_star.2 ⟨v, hsuffix, hv⟩)

theorem exists_suffix_of_afterStar (hmatch : afterStar p h = true) :
    ∃ v, v <:+ h ∧ v ∈ language p := by
  fun_induction afterStar p h with
  | case1 p h rest hadvance =>
      exact ⟨h, List.suffix_refl h, mem_language_of_hostEnd hadvance hmatch⟩
  | case2 p h p' h' hadvance ih =>
      obtain ⟨v, hsuffix, hv⟩ := ih hmatch
      exact ⟨h, List.suffix_refl h, mem_language_of_star hadvance hv hsuffix⟩
  | case3 => simp at hmatch
  | case4 p c h hadvance ih =>
      obtain ⟨v, hsuffix, hv⟩ := ih hmatch
      exact ⟨v, hsuffix.trans (List.suffix_cons c h), hv⟩

theorem mem_language_of_matchesFrom (hmatch : matchesFrom p h = true) : h ∈ language p := by
  rw [matchesFrom] at hmatch
  split at hmatch
  · next rest hadvance => exact mem_language_of_hostEnd hadvance hmatch
  · next p' h' hadvance =>
      obtain ⟨v, hsuffix, hv⟩ := exists_suffix_of_afterStar hmatch
      exact mem_language_of_star hadvance hv hsuffix
  · simp at hmatch

/-! ## Texts without a star -/

/-- A text of the language starts with as many characters as have been gone through. -/
theorem Along.exists_append (hqg : Along q g) (hg : '*' ∉ g) (hv : v ∈ language (q ++ p)) :
    ∃ a b, v = a ++ b ∧ a.length = g.length ∧ b ∈ language p := by
  induction hqg generalizing v with
  | nil => exact ⟨[], v, rfl, rfl, hv⟩
  | @cons x c q g hxc _ ih =>
      have hx : x ≠ '*' := by
        rintro rfl
        rcases hxc with hxc | rfl
        · simp at hxc
        · simp at hg
      rw [List.cons_append, mem_language_cons_of_ne hx] at hv
      obtain ⟨d, v, rfl, -, hv⟩ := hv
      obtain ⟨a, b, rfl, hlength, hb⟩ := ih (fun hmem => hg (by simp [hmem])) hv
      exact ⟨d :: a, b, rfl, by simp [hlength], hb⟩

theorem onlyStars_of_hostEnd (hadvance : advance p h = .hostEnd rest) (hh : '*' ∉ h)
    (hsuffix : v <:+ h) (hv : v ∈ language p) : onlyStars rest = true := by
  obtain ⟨q, g, p', h', hqg, rfl, rfl, hstops⟩ := exists_stops p h
  rw [hadvance] at hstops
  cases hstops with
  | hostEnd =>
      rw [List.append_nil] at hh hsuffix
      obtain ⟨a, b, rfl, hlength, hb⟩ := hqg.exists_append hh hv
      have hle := hsuffix.length_le
      rw [List.length_append] at hle
      obtain rfl : b = [] := List.length_eq_zero_iff.1 (by omega)
      exact nil_mem_language_iff.1 hb

/-- Where a star is reached, the rest of the pattern stands for an end of what is left of the text,
if the pattern stands for any end of the text: the text that was passed over is no longer than what
the same part of the pattern stands for there. -/
theorem exists_suffix_of_star (hadvance : advance p h = .star p' h') (hh : '*' ∉ h)
    (hsuffix : v <:+ h) (hv : v ∈ language p) : ∃ u, u <:+ h' ∧ u ∈ language p' := by
  obtain ⟨q, g, _, _, hqg, rfl, rfl, hstops⟩ := exists_stops p h
  rw [hadvance] at hstops
  cases hstops with
  | star p' h' hc =>
      obtain ⟨a, b, rfl, hlength, hb⟩ := hqg.exists_append (fun hmem => hh (by simp [hmem])) hv
      obtain ⟨u, hub, hu⟩ := mem_language_star.1 hb
      have hle := hsuffix.length_le
      have hub' := hub.length_le
      rw [List.length_append, List.length_append] at hle
      have huh : u <:+ g ++ _ := (hub.trans (List.suffix_append a b)).trans hsuffix
      exact ⟨u, List.suffix_of_suffix_length_le huh (List.suffix_append g _) (by omega), hu⟩

theorem not_mem_language_of_stuck (hadvance : advance p h = .stuck) (hh : '*' ∉ h) :
    h ∉ language p := by
  intro hmem
  obtain ⟨q, g, p', h', hqg, rfl, rfl, hstops⟩ := exists_stops p h
  rw [hadvance] at hstops
  obtain ⟨a, b, heq, hlength, hb⟩ := hqg.exists_append (fun hmem => hh (by simp [hmem])) hmem
  obtain ⟨rfl, rfl⟩ := List.append_inj heq hlength.symm
  cases hstops with
  | patternEnd => simp at hb
  | differ p h hx hxc =>
      obtain ⟨d, v, heq, hagrees, -⟩ := (mem_language_cons_of_ne hx).1 hb
      exact hxc ((List.cons.inj heq).1 ▸ hagrees)

theorem afterStar_of_suffix (hh : '*' ∉ h) (hsuffix : v <:+ h) (hv : v ∈ language p) :
    afterStar p h = true := by
  fun_induction afterStar p h generalizing v with
  | case1 p h rest hadvance => exact onlyStars_of_hostEnd hadvance hh hsuffix hv
  | case2 p h p' h' hadvance ih =>
      obtain ⟨u, hu, hlanguage⟩ := exists_suffix_of_star hadvance hh hsuffix hv
      exact ih (fun hmem => hh ((suffix_of_star hadvance).subset hmem)) hu hlanguage
  | case3 p hadvance => simp [(Stops.hostEnd p).advance_eq] at hadvance
  | case4 p c h hadvance ih =>
      rcases List.suffix_cons_iff.1 hsuffix with rfl | hsuffix
      · exact absurd hv (not_mem_language_of_stuck hadvance hh)
      · exact ih (fun hmem => hh (by simp [hmem])) hsuffix hv

/-- A text without a star is taken in iff it is of the pattern's language. -/
theorem matchesFrom_eq_true_iff (hh : '*' ∉ h) : matchesFrom p h = true ↔ h ∈ language p := by
  refine ⟨mem_language_of_matchesFrom, fun hmem => ?_⟩
  rw [matchesFrom]
  split
  · next rest hadvance => exact onlyStars_of_hostEnd hadvance hh (List.suffix_refl h) hmem
  · next p' h' hadvance =>
      obtain ⟨u, hu, hlanguage⟩ := exists_suffix_of_star hadvance hh (List.suffix_refl h) hmem
      have hrest : '*' ∉ h' := fun hmem => hh ((suffix_of_star hadvance).subset hmem)
      exact afterStar_of_suffix hrest hu hlanguage
  · next hadvance => exact absurd hmem (not_mem_language_of_stuck hadvance hh)

end SshTunnel.Glob
