import SshTunnel.Text.Lower

/-!
# Texts that differ in letter case

Two texts have the same letters if they differ in the case of ASCII letters only. Lower-casing
makes them the same: an ASCII letter is lowered by itself, and for the form of a capital sigma next
to it both of its cases count alike.
-/

namespace SshTunnel.Text

/-- Texts that differ at most in the case of ASCII letters. -/
def SameLetters (s t : List Char) : Prop :=
  s.map Char.toLower = t.map Char.toLower

instance (s t : List Char) : Decidable (SameLetters s t) :=
  inferInstanceAs (Decidable (_ = _))

/-- Lowering a character by its ASCII case changes it only if it is one of the capitals. -/
theorem toLower_eq_or_capital (c : Char) :
    c.toLower = c ∨ ∃ n : Fin 26, c = Char.ofNat (65 + n) := by
  by_cases h : 65 ≤ c.toNat ∧ c.toNat ≤ 90
  · right
    refine ⟨⟨c.toNat - 65, by omega⟩, ?_⟩
    have hn : 65 + (c.toNat - 65) = c.toNat := by omega
    rw [hn, Char.ofNat_toNat]
  · left
    refine dif_neg ?_
    rintro ⟨hA, hZ⟩
    exact h ⟨UInt32.le_iff_toNat_le.1 hA, UInt32.le_iff_toNat_le.1 hZ⟩

theorem lowerChar_toLower (c : Char) : lowerChar c.toLower = lowerChar c := by
  rcases toLower_eq_or_capital c with h | ⟨n, rfl⟩
  · rw [h]
  · revert n
    decide

theorem isInside_casedEdges_toLower (c : Char) :
    isInside casedEdges c.toLower.toNat = isInside casedEdges c.toNat := by
  rcases toLower_eq_or_capital c with h | ⟨n, rfl⟩
  · rw [h]
  · revert n
    decide

theorem isInside_caseIgnorableEdges_toLower (c : Char) :
    isInside caseIgnorableEdges c.toLower.toNat = isInside caseIgnorableEdges c.toNat := by
  rcases toLower_eq_or_capital c with h | ⟨n, rfl⟩
  · rw [h]
  · revert n
    decide

theorem toLower_eq_sigma_iff (c : Char) : c.toLower = 'Σ' ↔ c = 'Σ' := by
  rcases toLower_eq_or_capital c with h | ⟨n, rfl⟩
  · rw [h]
  · revert n
    decide

theorem meetsCased_cons (c : Char) (s : List Char) :
    meetsCased (c :: s) =
      if isInside caseIgnorableEdges c.toNat then meetsCased s
      else isInside casedEdges c.toNat := by
  by_cases h : isInside caseIgnorableEdges c.toNat = true
  · rw [meetsCased, List.dropWhile_cons, if_pos h, if_pos h]
    rfl
  · rw [meetsCased, List.dropWhile_cons, if_neg h, if_neg h]

theorem meetsCased_map_toLower (s : List Char) :
    meetsCased (s.map Char.toLower) = meetsCased s := by
  induction s with
  | nil => rfl
  | cons c s ih =>
      rw [List.map_cons, meetsCased_cons, meetsCased_cons, isInside_caseIgnorableEdges_toLower,
        isInside_casedEdges_toLower, ih]

theorem endsWord_map_toLower (before after : List Char) :
    endsWord (before.map Char.toLower) (after.map Char.toLower) = endsWord before after := by
  rw [endsWord, endsWord, meetsCased_map_toLower, meetsCased_map_toLower]

theorem lowerFrom_map_toLower (before s : List Char) :
    lowerFrom (before.map Char.toLower) (s.map Char.toLower) = lowerFrom before s := by
  induction s generalizing before with
  | nil => rfl
  | cons c s ih =>
      rw [List.map_cons, lowerFrom_cons, lowerFrom_cons, endsWord_map_toLower, lowerChar_toLower,
        ← List.map_cons, ih]
      simp only [toLower_eq_sigma_iff]

theorem lower_eq_of_sameLetters {s t : List Char} (h : SameLetters s t) : lower s = lower t := by
  have hs := lowerFrom_map_toLower [] s
  have ht := lowerFrom_map_toLower [] t
  rw [List.map_nil] at hs ht
  rw [lower, lower, ← hs, ← ht, h]

theorem SameLetters.append {s t s' t' : List Char} (h : SameLetters s t) (h' : SameLetters s' t') :
    SameLetters (s ++ s') (t ++ t') := by
  rw [SameLetters, List.map_append, List.map_append, h, h']

theorem SameLetters.refl (s : List Char) : SameLetters s s := rfl

end SshTunnel.Text
