import SshTunnel.Glob
import SshTunnel.Proofs.Text.Lower

/-!
# What a list of patterns matches

`Matches patterns host` says when a list of patterns matches a host, without an order of going
through it: one plain pattern matches and no negated one does. The loop `listMatchesFrom` carries
along whether a plain pattern has matched, and leaves at the first negated pattern that matches.
The order of the patterns is of no account for either. A literal pattern matches its own text alone.
-/

namespace SshTunnel.Glob

def IsNegated (pattern : String) : Prop :=
  pattern.toList.head? = some '!'

instance (pattern : String) : Decidable (IsNegated pattern) :=
  inferInstanceAs (Decidable (_ = _))

def afterMark (pattern : String) : String :=
  String.ofList pattern.toList.tail

/-- A list of patterns matches a host if one plain pattern does and no negated one. -/
def Matches (patterns : List String) (host : String) : Prop :=
  (∃ p ∈ patterns, ¬ IsNegated p ∧ wildcardMatches p host = true) ∧
    ∀ p ∈ patterns, IsNegated p → wildcardMatches (afterMark p) host = false

instance (patterns : List String) (host : String) : Decidable (Matches patterns host) :=
  inferInstanceAs (Decidable (_ ∧ _))

theorem negated?_of_isNegated {pattern : String} (h : IsNegated pattern) :
    negated? pattern = some (afterMark pattern) := by
  rw [IsNegated] at h
  unfold negated? afterMark
  cases hp : pattern.toList with
  | nil => simp [hp] at h
  | cons c p =>
      obtain rfl : c = '!' := by simpa [hp] using h
      rfl

theorem negated?_of_not_isNegated {pattern : String} (h : ¬ IsNegated pattern) :
    negated? pattern = none := by
  rw [IsNegated] at h
  unfold negated?
  split
  · next hp => simp [hp] at h
  · rfl

/-- The loop finds out whether a plain pattern matches, be it earlier or in the rest of the list,
unless a negated pattern of the rest does. -/
theorem listMatchesFrom_eq_true_iff (host : String) (found : Bool) (patterns : List String) :
    listMatchesFrom host found patterns = true ↔
      (found = true ∨ ∃ p ∈ patterns, ¬ IsNegated p ∧ wildcardMatches p host = true) ∧
        ∀ p ∈ patterns, IsNegated p → wildcardMatches (afterMark p) host = false := by
  induction patterns generalizing found with
  | nil => simp [listMatchesFrom]
  | cons p patterns ih =>
      rw [listMatchesFrom]
      by_cases hp : IsNegated p
      · rw [negated?_of_isNegated hp]
        by_cases hm : wildcardMatches (afterMark p) host = true
        · simp [hp, hm]
        · simp [hp, hm, ih]
      · rw [negated?_of_not_isNegated hp]
        simp [hp, ih, or_assoc]

theorem listMatches_eq_true_iff (patterns : List String) (host : String) :
    listMatches patterns host = true ↔ Matches patterns host := by
  rw [listMatches, listMatchesFrom_eq_true_iff, Matches]
  simp

theorem matches_of_perm {patterns patterns' : List String} {host : String}
    (hp : patterns.Perm patterns') (h : Matches patterns host) : Matches patterns' host := by
  obtain ⟨⟨p, hmem, hplain, hm⟩, hnone⟩ := h
  refine ⟨⟨p, hp.mem_iff.1 hmem, hplain, hm⟩, ?_⟩
  intro q hq hneg
  exact hnone q (hp.mem_iff.2 hq) hneg

theorem listMatches_perm {patterns patterns' : List String} (hp : patterns.Perm patterns')
    (host : String) : listMatches patterns host = listMatches patterns' host := by
  rw [Bool.eq_iff_iff, listMatches_eq_true_iff, listMatches_eq_true_iff]
  exact ⟨matches_of_perm hp, matches_of_perm hp.symm⟩

/-! ## Literal patterns -/

theorem matchesFrom_eq_true_iff_of_literal {p h : List Char} (hstar : '*' ∉ p) (hany : '?' ∉ p) :
    matchesFrom p h = true ↔ p = h := by
  induction p generalizing h with
  | nil => cases h <;> simp [matchesFrom, advance, onlyStars]
  | cons x p ih =>
      have hx : x ≠ '*' ∧ x ≠ '?' := by
        constructor
        · rintro rfl
          simp at hstar
        · rintro rfl
          simp at hany
      cases h with
      | nil => simp [matchesFrom, advance, onlyStars, hx]
      | cons c h =>
          by_cases hc : x = c
          · have hnext : matchesFrom (x :: p) (c :: h) = matchesFrom p h := by
              simp [matchesFrom, advance, hc]
            rw [hnext, ih (fun hmem => hstar (by simp [hmem])) (fun hmem => hany (by simp [hmem])),
              List.cons.injEq, and_iff_right hc]
          · simp [matchesFrom, advance, hx, hc]

theorem listMatches_singleton_iff_of_literal {pattern : String} (host : String)
    (hplain : ¬ IsNegated pattern) (hstar : '*' ∉ pattern.toList) (hany : '?' ∉ pattern.toList) :
    listMatches [pattern] host = true ↔ Text.lower pattern.toList = Text.lower host.toList := by
  have hdivider : Text.IsDivider '*' ∧ Text.IsDivider '?' := by decide
  have hstar' : '*' ∉ Text.lower pattern.toList := mt hdivider.1.mem_lower_iff.1 hstar
  have hany' : '?' ∉ Text.lower pattern.toList := mt hdivider.2.mem_lower_iff.1 hany
  rw [listMatches_eq_true_iff, Matches, ← matchesFrom_eq_true_iff_of_literal hstar' hany']
  simp [hplain, wildcardMatches]

end SshTunnel.Glob
