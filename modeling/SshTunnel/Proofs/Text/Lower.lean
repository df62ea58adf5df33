import SshTunnel.Proofs.Text.Numeral
import SshTunnel.Proofs.Text.SameLetters
import SshTunnel.Proofs.Text.Utf8

/-!
# What lower-casing leaves alone

A character is settled if it is its own lower-case form, whatever stands around it. Lower-casing
leaves a text of settled characters as it is. Dividers are settled, nothing else becomes one, and
the texts on both sides of one are lowered by themselves (`IsDivider.lower_append_cons`).
-/

namespace SshTunnel.Text

/-- Every character is its own lower-case form. -/
def IsSettled (s : List Char) : Prop :=
  ∀ c ∈ s, lowerChar c = [c]

instance (s : List Char) : Decidable (IsSettled s) :=
  List.decidableBAll _ s

theorem isSettled_of_ascii {s : List Char} (h : ∀ c ∈ s, c.toNat < 0x80 ∧ c.toLower = c) :
    IsSettled s := by
  intro c hc
  rw [lowerChar_of_ascii (h c hc).1, (h c hc).2]

theorem isSettled_of_isDigit {s : List Char} (h : ∀ c ∈ s, isDigit c = true) : IsSettled s := by
  have hletters : ∀ n : Fin 26, 57 < (Char.ofNat (65 + n)).toNat := by decide
  apply isSettled_of_ascii
  intro c hc
  obtain ⟨-, hhigh⟩ := isDigit_iff.1 (h c hc)
  refine ⟨by omega, ?_⟩
  rcases toLower_eq_or_capital c with hlower | ⟨n, rfl⟩
  · exact hlower
  · exact absurd hhigh (Nat.not_le.2 (hletters n))

/-- What stands around a settled character is of no account for it. -/
theorem lowerFrom_cons_of_settled {c : Char} (h : lowerChar c = [c]) (before s : List Char) :
    lowerFrom before (c :: s) = c :: lowerFrom (c :: before) s := by
  have hsigma : c ≠ 'Σ' := by
    rintro rfl
    exact absurd h (by decide)
  rw [lowerFrom_cons, if_neg hsigma, h, List.singleton_append]

theorem lower_eq_self {s : List Char} (h : IsSettled s) : lower s = s := by
  have hfrom (before : List Char) : lowerFrom before s = s := by
    induction s generalizing before with
    | nil => rfl
    | cons c s ih =>
        rw [lowerFrom_cons_of_settled (h c (by simp)), ih fun x hx => h x (by simp [hx])]
  exact hfrom []

theorem IsSettled.append {s t : List Char} (hs : IsSettled s) (ht : IsSettled t) :
    IsSettled (s ++ t) := by
  intro c hc
  rcases List.mem_append.1 hc with hc | hc
  · exact hs c hc
  · exact ht c hc

/-! ## No character is lost -/

theorem lowerChar_ne_nil (c : Char) : lowerChar c ≠ [] := by
  rw [lowerChar]
  repeat' split
  all_goals simp

theorem lowerFrom_cons_ne_nil (before : List Char) (c : Char) (s : List Char) :
    lowerFrom before (c :: s) ≠ [] := by
  rw [lowerFrom_cons]
  split
  · simp
  · simp [lowerChar_ne_nil]

theorem lowerFrom_eq_nil {before s : List Char} : lowerFrom before s = [] ↔ s = [] := by
  cases s with
  | nil => simp [lowerFrom]
  | cons c s => simp [lowerFrom_cons_ne_nil]

/-! ## Dividers -/

/-- A character that is no letter and ends a word, such as a star, a question mark or a bracket. -/
def IsDivider (x : Char) : Prop :=
  (0x20 < x.toNat ∧ x.toNat < 0x60) ∧ x.toLower = x ∧ isInside casedEdges x.toNat = false ∧
    isInside caseIgnorableEdges x.toNat = false

instance (x : Char) : Decidable (IsDivider x) :=
  inferInstanceAs (Decidable (_ ∧ _))

theorem ofNat_ne_of_lt {x : Char} {n : Nat} (hx : 0x20 < x.toNat) (h : x.toNat < n) :
    Char.ofNat n ≠ x := by
  rintro rfl
  by_cases hvalid : n.isValidChar
  · rw [Utf8.toNat_ofNat_of_valid hvalid] at h
    exact Nat.lt_irrefl n h
  · rw [Char.ofNat, dif_neg hvalid] at hx
    exact absurd hx (by decide)

theorem LoweringRun.image_le {r : LoweringRun} {n m : Nat} (h : r.image? n = some m) :
    r.image ≤ m := by
  rw [image?] at h
  split at h
  · obtain rfl : r.image + (n - r.first) = m := by simpa using h
    exact Nat.le_add_right _ _
  · simp at h

namespace IsDivider

variable {x : Char}

theorem lowerChar_eq (hx : IsDivider x) : lowerChar x = [x] := by
  obtain ⟨⟨-, hlt⟩, hlower, -⟩ := hx
  rw [lowerChar_of_ascii (by omega), hlower]

theorem ne_of_le (hx : IsDivider x) {c : Char} (h : 0x60 ≤ c.toNat) : x ≠ c := by
  rintro rfl
  exact absurd hx.1.2 (Nat.not_lt.2 h)

theorem mem_lowerChar_iff (hx : IsDivider x) {c : Char} : x ∈ lowerChar c ↔ x = c := by
  have htable : ∀ r ∈ loweringRuns, 0x60 ≤ r.image := by decide +kernel
  have hletters : ∀ n : Fin 26, 0x60 ≤ (Char.ofNat (65 + n)).toLower.toNat := by decide
  refine ⟨fun h => ?_, fun h => by rw [← h, hx.lowerChar_eq]; exact List.mem_singleton_self x⟩
  obtain ⟨hgt, hlt⟩ := hx.1
  rw [lowerChar] at h
  split at h
  · rcases toLower_eq_or_capital c with hc | ⟨n, rfl⟩
    · simpa [hc] using h
    · exact absurd (List.mem_singleton.1 h) (hx.ne_of_le (hletters n))
  · split at h
    · rcases List.mem_cons.1 h with h | h
      · exact absurd h (hx.ne_of_le (by decide))
      · exact absurd (List.mem_singleton.1 h) (hx.ne_of_le (by decide))
    · split at h
      · next n hn =>
          obtain ⟨r, hr, himage⟩ := List.exists_of_findSome?_eq_some hn
          have hle : 0x60 ≤ n := Nat.le_trans (htable r hr) (LoweringRun.image_le himage)
          exact absurd (List.mem_singleton.1 h).symm (ofNat_ne_of_lt hgt (by omega))
      · exact List.mem_singleton.1 h

theorem mem_lowered_iff (hx : IsDivider x) {c : Char} (before s : List Char) :
    x ∈ (if c = 'Σ' then [if endsWord before s then 'ς' else 'σ'] else lowerChar c) ↔ x = c := by
  split
  · next hc =>
      have hcapital : x ≠ 'Σ' := hx.ne_of_le (by decide)
      have hmedial : x ≠ 'σ' := hx.ne_of_le (by decide)
      have hfinal : x ≠ 'ς' := hx.ne_of_le (by decide)
      split <;> simp [hc, hcapital, hmedial, hfinal]
  · exact hx.mem_lowerChar_iff

theorem mem_lower_iff (hx : IsDivider x) {s : List Char} : x ∈ lower s ↔ x ∈ s := by
  have hfrom (before : List Char) : x ∈ lowerFrom before s ↔ x ∈ s := by
    induction s generalizing before with
    | nil => rfl
    | cons c s ih => rw [lowerFrom_cons, List.mem_append, hx.mem_lowered_iff, ih, List.mem_cons]
  exact hfrom []

theorem head?_of_head?_lower (hx : IsDivider x) {s : List Char} (h : (lower s).head? = some x) :
    s.head? = some x := by
  cases s with
  | nil => exact h
  | cons c s =>
      have hne : (if c = 'Σ' then [if endsWord [] s then 'ς' else 'σ'] else lowerChar c) ≠ [] := by
        split
        · simp
        · exact lowerChar_ne_nil c
      obtain ⟨d, t, hform⟩ := List.exists_cons_of_ne_nil hne
      rw [lower, lowerFrom_cons, hform, List.cons_append, List.head?_cons] at h
      have hmem := hform ▸ List.mem_cons_self
      rw [Option.some.inj h, hx.mem_lowered_iff] at hmem
      rw [List.head?_cons, hmem]

theorem meetsCased_append_cons (hx : IsDivider x) (s t : List Char) :
    meetsCased (s ++ x :: t) = meetsCased s := by
  induction s with
  | nil => simp [meetsCased_cons, hx.2.2.1, hx.2.2.2]; rfl
  | cons c s ih => rw [List.cons_append, meetsCased_cons, meetsCased_cons, ih]

/-- The texts on both sides of a divider are lowered by themselves. -/
theorem lower_append_cons (hx : IsDivider x) (s t : List Char) :
    lower (s ++ x :: t) = lower s ++ x :: lower t := by
  have hright (before b : List Char) : lowerFrom (b ++ x :: before) t = lowerFrom b t := by
    induction t generalizing b with
    | nil => rfl
    | cons c t ih =>
        rw [lowerFrom_cons, lowerFrom_cons, endsWord, endsWord, hx.meetsCased_append_cons,
          ← List.cons_append, ih]
  have hleft (before : List Char) :
      lowerFrom before (s ++ x :: t) = lowerFrom before s ++ x :: lower t := by
    induction s generalizing before with
    | nil =>
        rw [List.nil_append, lowerFrom_cons_of_settled hx.lowerChar_eq]
        exact congrArg _ (hright before [])
    | cons c s ih =>
        rw [List.cons_append, lowerFrom_cons, lowerFrom_cons, endsWord, endsWord,
          hx.meetsCased_append_cons, ih, List.append_assoc]
  exact hleft []

end IsDivider

end SshTunnel.Text
