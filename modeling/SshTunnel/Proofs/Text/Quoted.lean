import Mathlib.Tactic.SplitIfs
import SshTunnel.Proofs.Text.Cuts
import SshTunnel.Text.Quoted

/-!
# A quotation tells what it quotes

Each character is quoted in one of three forms (`Quotes`), and where its form ends can be seen from
the form alone. So two texts with the same quotation are the same (`quoted_inj`).
-/

namespace SshTunnel.Text

/-! ## Hexadecimal numerals -/

theorem digitChar_inj {a b : Nat} (ha : a < 16) (hb : b < 16) :
    Nat.digitChar a = Nat.digitChar b ↔ a = b := by
  have hall : ∀ a b : Fin 16, Nat.digitChar a = Nat.digitChar b → a = b := by decide
  refine ⟨fun h => ?_, fun h => by rw [h]⟩
  exact congrArg Fin.val (hall ⟨a, ha⟩ ⟨b, hb⟩ h)

theorem hexDigits_eq (n : Nat) :
    hexDigits n = (if n < 16 then [] else hexDigits (n / 16)) ++ [Nat.digitChar (n % 16)] := by
  split
  · next h => rw [hexDigits, Nat.toDigits_of_lt_base h, Nat.mod_eq_of_lt h, List.nil_append]
  · next h => rw [hexDigits, Nat.toDigits_of_base_le (by decide) (by omega), hexDigits]

theorem hexDigits_ne_nil (n : Nat) : hexDigits n ≠ [] := by
  rw [hexDigits_eq]
  simp

theorem hexDigits_inj {n m : Nat} : hexDigits n = hexDigits m ↔ n = m := by
  refine ⟨fun h => ?_, fun h => by rw [h]⟩
  induction n using Nat.strongRecOn generalizing m with
  | ind n ih =>
      rw [hexDigits_eq n, hexDigits_eq m] at h
      obtain ⟨hfront, hlast⟩ := List.append_inj' h rfl
      have hmod : n % 16 = m % 16 :=
        (digitChar_inj (by omega) (by omega)).1 (List.singleton_inj.1 hlast)
      have hdiv : n / 16 = m / 16 := by
        split_ifs at hfront with hn hm hm
        · omega
        · exact absurd hfront.symm (hexDigits_ne_nil _)
        · exact absurd hfront (hexDigits_ne_nil _)
        · exact ih (n / 16) (by omega) hfront
      omega

theorem brace_not_mem_hexDigits (n : Nat) : '\x7d' ∉ hexDigits n := by
  induction n using Nat.strongRecOn with
  | ind n ih =>
      rw [hexDigits_eq]
      split_ifs with h
      · simp
      · simp [ih (n / 16) (by omega)]

/-! ## Quoted characters -/

/-- The characters that a letter after a backslash stands for, with their letters. -/
def marks : List (Char × Char) :=
  [('"', '"'), ('\\', '\\'), ('\t', 't'), ('\r', 'r'), ('\n', 'n'), ('\x00', '0')]

/-- The forms in which a character is quoted. -/
inductive Quotes : Char → List Char → Prop
  | mark {c m : Char} (h : (c, m) ∈ marks) : Quotes c ['\\', m]
  | code (c : Char) : Quotes c ('\\' :: 'u' :: '\x7b' :: (hexDigits c.toNat ++ ['\x7d']))
  | plain {c : Char} (h : c ≠ '\\') : Quotes c [c]

theorem quotes_quoteChar (c : Char) : Quotes c (quoteChar c) := by
  rw [quoteChar]
  split_ifs with hquote hslash htab hreturn hnewline hnull
  · exact .mark (by simp [hquote, marks])
  · exact .mark (by simp [hslash, marks])
  · exact .mark (by simp [htab, marks])
  · exact .mark (by simp [hreturn, marks])
  · exact .mark (by simp [hnewline, marks])
  · exact .mark (by simp [hnull, marks])
  · exact .code c
  · exact .plain hslash

/-- A form is no proper beginning of another. -/
theorem Quotes.inj {c c' : Char} {w w' s s' : List Char} (h : Quotes c w) (h' : Quotes c' w')
    (heq : w ++ s = w' ++ s') : c = c' ∧ s = s' := by
  have hmarks : ∀ p ∈ marks, p.2 ≠ 'u' ∧ ∀ q ∈ marks, p.2 = q.2 → p.1 = q.1 := by decide
  cases h with
  | mark hm =>
      cases h' with
      | mark hm' =>
          obtain ⟨hletter, hrest⟩ := List.cons.inj (List.cons.inj heq).2
          exact ⟨(hmarks _ hm).2 _ hm' hletter, hrest⟩
      | code => simp [(hmarks _ hm).1] at heq
      | plain hne => simp [hne.symm] at heq
  | code =>
      cases h' with
      | mark hm' => simp [(hmarks _ hm').1.symm] at heq
      | code =>
          -- a code ends at its first closing brace, which is no digit
          simp only [List.cons_append, List.append_assoc, List.nil_append, List.cons.injEq,
            true_and] at heq
          obtain ⟨hdigits, hrest⟩ := (first_cut_inj (brace_not_mem_hexDigits _)
            (brace_not_mem_hexDigits _)).1 heq
          exact ⟨Char.toNat_inj.1 (hexDigits_inj.1 hdigits), hrest⟩
      | plain hne => simp [hne.symm] at heq
  | plain hne =>
      cases h' with
      | mark => simp [hne] at heq
      | code => simp [hne] at heq
      | plain => simpa using heq

theorem Quotes.ne_nil {c : Char} {w : List Char} (h : Quotes c w) : w ≠ [] := by
  cases h <;> simp

/-! ## Quoted texts -/

theorem flatMap_quoteChar_inj {s s' : List Char} :
    s.flatMap quoteChar = s'.flatMap quoteChar ↔ s = s' := by
  refine ⟨fun h => ?_, fun h => by rw [h]⟩
  induction s generalizing s' with
  | nil =>
      cases s' with
      | nil => rfl
      | cons c' s' =>
          have hne := (quotes_quoteChar c').ne_nil
          simp_all
  | cons c s ih =>
      cases s' with
      | nil =>
          have hne := (quotes_quoteChar c).ne_nil
          simp_all
      | cons c' s' =>
          rw [List.flatMap_cons, List.flatMap_cons] at h
          obtain ⟨rfl, hrest⟩ := (quotes_quoteChar c).inj (quotes_quoteChar c') h
          rw [ih hrest]

theorem quoted_inj {s s' : String} : quoted s = quoted s' ↔ s = s' := by
  rw [quoted, quoted, String.ofList_inj, quoteChars, quoteChars, List.cons_append, List.cons_append,
    List.cons_inj_right, List.append_left_inj, flatMap_quoteChar_inj, String.toList_inj]

end SshTunnel.Text
