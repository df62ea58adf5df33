import Mathlib.Data.List.Basic
import Mathlib.Data.List.Induction
import SshTunnel.Text.Numeral

/-!
# Numerals are read back as they were written

`natural?` gives a number for its decimal digits, and `word16?` does if it is below 2^16. Digits
without needless zeros are the only ones that write their number (`toDigits_digitsValue`).
-/

namespace SshTunnel.Text

theorem isDigit_of_mem_toDigits {c : Char} {n : Nat} (h : c ∈ Nat.toDigits 10 n) :
    isDigit c = true := by
  have hdigit := Nat.isDigit_of_mem_toDigits (by decide) (by decide) h
  simpa [Char.isDigit, isDigit, Char.le_def] using hdigit

theorem not_mem_toDigits {c : Char} (n : Nat) (h : isDigit c = false) : c ∉ Nat.toDigits 10 n := by
  intro hmem
  rw [isDigit_of_mem_toDigits hmem] at h
  simp at h

theorem natural?_toDigits (n : Nat) : natural? (Nat.toDigits 10 n) = some n := by
  have hvalue : digitsValue 0 (Nat.toDigits 10 n) = n := Nat.ofDigitChars_ten_toDigits
  have hall : (Nat.toDigits 10 n).all isDigit = true :=
    List.all_eq_true.2 fun c hc => isDigit_of_mem_toDigits hc
  rw [natural?, if_pos ⟨Nat.toDigits_ne_nil, hall⟩, hvalue]

theorem dropPlus_toDigits (n : Nat) : dropPlus (Nat.toDigits 10 n) = Nat.toDigits 10 n := by
  rw [dropPlus.eq_def]
  split
  · next s heq => exact absurd (by simp [heq]) (not_mem_toDigits (c := '+') n (by decide))
  · rfl

theorem word16?_toDigits (n : UInt16) : word16? (Nat.toDigits 10 n.toNat) = some n := by
  rw [word16?, dropPlus_toDigits, natural?_toDigits]
  simp [n.toNat_lt]

/-! ## Numerals without needless zeros -/

theorem isDigit_iff {c : Char} : isDigit c = true ↔ 48 ≤ c.toNat ∧ c.toNat ≤ 57 := by
  simp [isDigit, Char.le_def, UInt32.le_iff_toNat_le]

theorem digitChar_digitValue {c : Char} (h : isDigit c = true) :
    Nat.digitChar (digitValue c) = c := by
  have hdigits : ∀ d : Fin 10, Nat.digitChar d = Char.ofNat (48 + d) := by decide
  obtain ⟨hlow, hhigh⟩ := isDigit_iff.1 h
  have hlt : c.toNat - 48 < 10 := by omega
  have hchar := hdigits ⟨c.toNat - 48, hlt⟩
  rw [show 48 + (c.toNat - 48) = c.toNat by omega, Char.ofNat_toNat] at hchar
  exact hchar

theorem digitValue_lt {c : Char} (h : isDigit c = true) : digitValue c < 10 := by
  have hhigh := (isDigit_iff.1 h).2
  rw [digitValue, show '0'.toNat = 48 from rfl]
  omega

/-- Digits that start with a zero only if they are a single one are those of their number. -/
theorem toDigits_digitsValue {s : List Char} (hne : s ≠ []) (hdigits : ∀ c ∈ s, isDigit c = true)
    (hzero : s.head? = some '0' → s.length = 1) : Nat.toDigits 10 (digitsValue 0 s) = s := by
  induction s using List.reverseRecOn with
  | nil => exact absurd rfl hne
  | append_singleton s c ih =>
      have hc : isDigit c = true := hdigits c (by simp)
      have hlast : Nat.toDigits 10 (digitValue c) = [c] := by
        rw [Nat.toDigits_of_lt_base (digitValue_lt hc), digitChar_digitValue hc]
      rw [digitsValue_append]
      change Nat.toDigits 10 (10 * digitsValue 0 s + digitValue c) = _
      by_cases hs : s = []
      · subst hs
        simpa [digitsValue] using hlast
      have hhead : s.head? ≠ some '0' := by
        intro hhead
        have hlength := hzero (by rw [List.head?_append_of_ne_nil _ hs, hhead])
        rw [List.length_append, List.length_singleton, Nat.add_eq_right] at hlength
        exact hs (List.eq_nil_of_length_eq_zero hlength)
      have hfront := ih hs (fun c hc => hdigits c (List.mem_append_left _ hc))
        (fun h => absurd h hhead)
      have hpos : 0 < digitsValue 0 s := by
        by_contra hnone
        rw [Nat.eq_zero_of_not_pos hnone, Nat.toDigits_zero] at hfront
        exact hhead (by rw [← hfront]; rfl)
      rw [← Nat.toDigits_append_toDigits (by decide) hpos (digitValue_lt hc), hfront, hlast]

theorem head?_toDigits_ne_zero {n : Nat} (h : 0 < n) :
    (Nat.toDigits 10 n).head? ≠ some '0' := by
  induction n using Nat.strongRecOn with
  | ind n ih =>
      rw [Nat.toDigits_eq_if (by decide)]
      split
      · next hlt =>
          have hdigits : ∀ d : Fin 10, 0 < d.val → Nat.digitChar d ≠ '0' := by decide
          intro hhead
          exact hdigits ⟨n, hlt⟩ h (Option.some.inj hhead)
      · next hge =>
          rw [List.head?_append_of_ne_nil _ Nat.toDigits_ne_nil]
          exact ih (n / 10) (by omega) (by omega)

end SshTunnel.Text
