import Mathlib.Data.List.Basic
import SshTunnel.KnownHosts.File
import SshTunnel.Proofs.Except

/-!
# Which lines make known hosts

A text loads iff each of its lines is sound, that is, idle or an entry; what it loads are the
entries of its lines, in their order (`readLines_eq_ok_iff`). So lines may be put into another
order, and the lines of certificate authorities taken out and put in, and the entries follow.
-/

namespace SshTunnel.KnownHosts

/-! ## Lines and their entries -/

def IsSound (line : List Char) : Prop :=
  isIdle line = true ∨ ∃ e, readLine line = .ok e

instance (line : List Char) : Decidable (IsSound line) :=
  decidable_of_iff (isIdle line = true ∨ (readLine line).toOption.isSome = true) (by
    rw [IsSound, Option.isSome_iff_exists]
    simp only [toOption_eq_some_iff])

def entryOf? (line : List Char) : Option Entry :=
  if isIdle line then none else (readLine line).toOption

theorem readLines_eq_ok_iff {number : Nat} {lines : List (List Char)} {entries : List Entry} :
    readLines number lines = .ok entries ↔
      (∀ line ∈ lines, IsSound line) ∧ lines.filterMap entryOf? = entries := by
  induction lines generalizing number entries with
  | nil => simp [readLines]
  | cons line lines ih =>
      rw [readLines]
      by_cases hidle : isIdle line = true
      · have hnone : entryOf? line = none := by simp [entryOf?, hidle]
        simp [hidle, ih, IsSound, hnone]
      · rw [if_neg hidle]
        cases hline : readLine line with
        | error fault => simp [IsSound, hidle, hline]
        | ok e =>
            have hsome : entryOf? line = some e := by
              rw [entryOf?, if_neg hidle, toOption_eq_some_iff, hline]
            have hsound : IsSound line := Or.inr ⟨e, hline⟩
            rw [List.filterMap_cons_some hsome]
            constructor
            · intro h
              obtain ⟨rest, hrest, rfl⟩ := map_eq_ok_iff.1 h
              obtain ⟨hall, hmap⟩ := ih.1 hrest
              exact ⟨List.forall_mem_cons.2 ⟨hsound, hall⟩, by rw [hmap]⟩
            · rintro ⟨hall, rfl⟩
              have hrest : readLines (number + 1) lines = .ok (lines.filterMap entryOf?) :=
                ih.2 ⟨(List.forall_mem_cons.1 hall).2, rfl⟩
              exact map_eq_ok_iff.2 ⟨_, hrest, rfl⟩

theorem readEntries_eq_ok_iff {text : List Char} {entries : List Entry} :
    readEntries text = .ok entries ↔
      (∀ line ∈ Text.lines text, IsSound line) ∧
        (Text.lines text).filterMap entryOf? = entries :=
  readLines_eq_ok_iff

/-! ## Markers -/

def Marker.words : Marker → List (List Char)
  | plain => []
  | revoked => ["@revoked".toList]
  | certAuthority => ["@cert-authority".toList]

theorem readMarker_eq_ok_iff {word : List Char} {marker : Marker} :
    readMarker word = .ok marker ↔
      (marker = .plain ∧ word.head? ≠ some '@') ∨ marker.words = [word] := by
  rw [readMarker]
  by_cases hrevoked : word = "@revoked".toList
  · rw [if_pos hrevoked, hrevoked]
    cases marker with
    | plain => decide
    | revoked => decide
    | certAuthority => decide
  · rw [if_neg hrevoked]
    by_cases hauthority : word = "@cert-authority".toList
    · rw [if_pos hauthority, hauthority]
      cases marker with
      | plain => decide
      | revoked => decide
      | certAuthority => decide
    · rw [if_neg hauthority]
      have hwords : marker.words ≠ [word] := by
        cases marker with
        | plain => simp [Marker.words]
        | revoked => simpa [Marker.words] using Ne.symm hrevoked
        | certAuthority => simpa [Marker.words] using Ne.symm hauthority
      by_cases hsign : word.head? = some '@'
      · simp [hsign, hwords]
      · simp [hsign, hwords, eq_comm]

/-! ## The lines of certificate authorities -/

def IsAuthorityLine (line : List Char) : Prop :=
  (Text.words (Text.trim line)).head? = some "@cert-authority".toList

instance (line : List Char) : Decidable (IsAuthorityLine line) :=
  inferInstanceAs (Decidable (_ = _))

def withoutAuthorities (entries : List Entry) : List Entry :=
  entries.filter fun e => e.marker ≠ .certAuthority

theorem readMarker_eq_certAuthority_iff (word : List Char) :
    readMarker word = .ok .certAuthority ↔ word = "@cert-authority".toList := by
  rw [readMarker_eq_ok_iff]
  simp [Marker.words, eq_comm]

theorem readMarker_of_readWords {words : List (List Char)} {e : Entry}
    (h : readWords words = .ok e) :
    ∃ first rest, words = first :: rest ∧ readMarker first = .ok e.marker := by
  cases words with
  | nil => simp [readWords] at h
  | cons first rest =>
      rw [readWords] at h
      obtain ⟨marker, hm, h⟩ := bind_eq_ok_iff.1 h
      obtain ⟨⟨hosts, rest'⟩, _, h⟩ := bind_eq_ok_iff.1 h
      obtain ⟨hosts', _, h⟩ := bind_eq_ok_iff.1 h
      obtain ⟨key, _, h⟩ := bind_eq_ok_iff.1 h
      obtain rfl : _ = e := by simpa [pure, Except.pure] using h
      exact ⟨first, rest, rfl, hm⟩

theorem marker_eq_certAuthority_iff {line : List Char} {e : Entry} (h : entryOf? line = some e) :
    e.marker = .certAuthority ↔ IsAuthorityLine line := by
  have hline : readLine line = .ok e := by
    rw [entryOf?] at h
    split at h
    · simp at h
    · exact toOption_eq_some_iff.1 h
  obtain ⟨first, rest, hwords, hm⟩ := readMarker_of_readWords hline
  rw [IsAuthorityLine, hwords, List.head?_cons, Option.some_inj,
    ← readMarker_eq_certAuthority_iff first, hm, Except.ok.injEq]

theorem withoutAuthorities_filterMap (lines : List (List Char)) :
    withoutAuthorities (lines.filterMap entryOf?) =
      (lines.filter fun line => ¬ IsAuthorityLine line).filterMap entryOf? := by
  induction lines with
  | nil => rfl
  | cons line lines ih =>
      rw [withoutAuthorities] at ih ⊢
      cases he : entryOf? line with
      | none =>
          rw [List.filterMap_cons_none he, ih, List.filter_cons]
          split
          · rw [List.filterMap_cons_none he]
          · rfl
      | some e =>
          have hm := marker_eq_certAuthority_iff he
          rw [List.filterMap_cons_some he, List.filter_cons, List.filter_cons, ih]
          by_cases ha : IsAuthorityLine line
          · simp [ha, hm.2 ha]
          · simp [ha, mt hm.1 ha, he]

/-- Two texts have the same lines, in any order, if those of authorities are not counted. -/
def SameLines (text text' : List Char) : Prop :=
  ((Text.lines text).filter fun line => ¬ IsAuthorityLine line).Perm
    ((Text.lines text').filter fun line => ¬ IsAuthorityLine line)

instance (text text' : List Char) : Decidable (SameLines text text') :=
  inferInstanceAs (Decidable (List.Perm _ _))

/-- A text that has the same lines as one that loads, with sound lines of authorities, loads too,
and but for authorities it gives the same entries in some order. -/
theorem readEntries_of_sameLines {text text' : List Char} {entries : List Entry}
    (hload : readEntries text = .ok entries) (hsame : SameLines text text')
    (hsound : ∀ line ∈ Text.lines text', IsAuthorityLine line → IsSound line) :
    ∃ entries', readEntries text' = .ok entries' ∧
      (withoutAuthorities entries).Perm (withoutAuthorities entries') := by
  obtain ⟨hall, rfl⟩ := readEntries_eq_ok_iff.1 hload
  refine ⟨_, readEntries_eq_ok_iff.2 ⟨?_, rfl⟩, ?_⟩
  · intro line hline
    by_cases ha : IsAuthorityLine line
    · exact hsound line hline ha
    · have hmem : line ∈ (Text.lines text).filter fun line => ¬ IsAuthorityLine line :=
        hsame.mem_iff.2 (by simp [hline, ha])
      exact hall line (List.mem_of_mem_filter hmem)
  · rw [withoutAuthorities_filterMap, withoutAuthorities_filterMap]
    exact hsame.filterMap entryOf?

end SshTunnel.KnownHosts
