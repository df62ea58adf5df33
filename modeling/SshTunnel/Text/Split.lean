import SshTunnel.Text.Blank

/-!
# Cutting texts

A text is cut at its first or last character of a class (`splitFirst`, `splitLast`), at the first
occurrence of a word (`splitWord`), or at every character of a class (`splitEvery`). Words and
lines are cut with the latter. The characters cut at are dropped.
-/

namespace SshTunnel.Text

/-- What precedes and what follows the first character of the class. -/
def splitFirst (p : Char → Bool) : List Char → Option (List Char × List Char)
  | [] => none
  | c :: s => if p c then some ([], s) else (splitFirst p s).map fun (a, b) => (c :: a, b)

/-- What precedes and what follows the last character of the class. -/
def splitLast (p : Char → Bool) (s : List Char) : Option (List Char × List Char) :=
  (splitFirst p s.reverse).map fun (a, b) => (b.reverse, a.reverse)

/-- What precedes and what follows the first occurrence of the word `w`. -/
def splitWord (w : List Char) : List Char → Option (List Char × List Char)
  | [] => if w = [] then some ([], []) else none
  | c :: s =>
      if w.isPrefixOf (c :: s) then some ([], (c :: s).drop w.length)
      else (splitWord w s).map fun (a, b) => (c :: a, b)

/-- The part before the first character `c`, which is all of the text if there is none, and what
follows that character. -/
def splitOptional (c : Char) (s : List Char) : List Char × Option (List Char) :=
  match splitFirst (· = c) s with
  | some (a, b) => (a, some b)
  | none => (s, none)

/-- The pieces between the characters of the class; one more than there are such characters. -/
def splitEvery (p : Char → Bool) : List Char → List (List Char)
  | [] => [[]]
  | c :: s =>
      if p c then [] :: splitEvery p s
      else
        match splitEvery p s with
        | [] => [[c]]
        | piece :: pieces => (c :: piece) :: pieces

/-- The maximal runs of characters that are not blank. -/
def words (s : List Char) : List (List Char) :=
  (splitEvery isBlank s).filter (· ≠ [])

/-- A line without the carriage return that precedes its line feed. -/
def chompReturn (line : List Char) : List Char :=
  if line.getLast? = some '\r' then line.dropLast else line

/-- The lines of a text. A line ends with a line feed or with the text; an empty last line that no
line feed ends is not counted, and only a carriage return right before a line feed is dropped. -/
def lines (s : List Char) : List (List Char) :=
  let pieces := splitEvery (· = '\n') s
  pieces.dropLast.map chompReturn ++ (pieces.getLast?.toList.filter (· ≠ []))

@[simp] theorem splitFirst_nil (p : Char → Bool) : splitFirst p [] = none := rfl

theorem splitFirst_cons (p : Char → Bool) (c : Char) (s : List Char) :
    splitFirst p (c :: s) =
      if p c then some ([], s) else (splitFirst p s).map fun (a, b) => (c :: a, b) := rfl

/-- A text is cut right after a part outside the class. -/
theorem splitFirst_append_cons {p : Char → Bool} {a : List Char} {c : Char} (b : List Char)
    (ha : ∀ x ∈ a, p x = false) (hc : p c = true) :
    splitFirst p (a ++ c :: b) = some (a, b) := by
  induction a with
  | nil => simp [splitFirst, hc]
  | cons x a ih =>
      have hx : p x = false := ha x (by simp)
      simp [splitFirst, hx, ih fun y hy => ha y (by simp [hy])]

/-- The two parts of a cut and the character between them make up the text. -/
theorem eq_append_of_splitFirst {p : Char → Bool} {s a b : List Char}
    (h : splitFirst p s = some (a, b)) : ∃ c, p c = true ∧ s = a ++ c :: b := by
  induction s generalizing a b with
  | nil => simp at h
  | cons x s ih =>
      rw [splitFirst_cons] at h
      split at h
      · next hx =>
          obtain ⟨rfl, rfl⟩ : [] = a ∧ s = b := by simpa using h
          exact ⟨x, hx, rfl⟩
      · obtain ⟨⟨a', b'⟩, hab, heq⟩ := Option.map_eq_some_iff.1 h
        obtain ⟨rfl, rfl⟩ : x :: a' = a ∧ b' = b := by simpa using heq
        obtain ⟨c, hc, rfl⟩ := ih hab
        exact ⟨c, hc, rfl⟩

theorem length_lt_of_splitFirst {p : Char → Bool} {s a b : List Char}
    (h : splitFirst p s = some (a, b)) : b.length < s.length := by
  obtain ⟨c, _, rfl⟩ := eq_append_of_splitFirst h
  simp
  omega

theorem splitFirst_eq_none {p : Char → Bool} {s : List Char} (h : ∀ x ∈ s, p x = false) :
    splitFirst p s = none := by
  induction s with
  | nil => rfl
  | cons x s ih =>
      have hx : p x = false := h x (by simp)
      simp [splitFirst, hx, ih fun y hy => h y (by simp [hy])]

theorem splitEvery_ne_nil (p : Char → Bool) (s : List Char) : splitEvery p s ≠ [] := by
  cases s with
  | nil => simp [splitEvery]
  | cons c s =>
      rw [splitEvery]
      split
      · simp
      · split <;> simp

end SshTunnel.Text
