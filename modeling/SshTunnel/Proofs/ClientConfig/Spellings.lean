import SshTunnel.Proofs.ClientConfig.OnePass
import SshTunnel.Proofs.Text.Cuts
import SshTunnel.Proofs.Text.Lower

/-!
# Spellings of a setting

A setting can be put in several ways (`Spells`): blanks or an equals sign stand between the keyword
and the value, and the value stands in quotes or, if it is plain, as it is. Whatever the way, the
line has the same keyword and the value is found for it.
-/

namespace SshTunnel.ClientConfig

open Text (IsTight SameLetters)

def IsBlanks (s : List Char) : Prop :=
  ∀ c ∈ s, Text.isBlank c = true ∧ c ≠ '\n'

instance (s : List Char) : Decidable (IsBlanks s) :=
  List.decidableBAll _ s

structure IsKeyword (key : List Char) : Prop where
  ne_nil : key ≠ []
  plain : ∀ c ∈ key, endsKeyword c = false
  no_comment : key.head? ≠ some '#'
  no_section : String.ofList (Text.lower key) ∉ ["host", "match", "include"]

/-- A value that needs no quotes. -/
structure IsPlainValue (value : List Char) : Prop where
  ne_nil : value ≠ []
  tight : IsTight value
  no_equals : value.head? ≠ some '='
  no_quotes : ¬ (value.head? = some '"' ∧ value.getLast? = some '"')

/-- What can stand between a keyword and its value. -/
inductive Gap : List Char → Prop
  | blanks {b : List Char} (h : IsBlanks b) (hne : b ≠ []) : Gap b
  | equals {b b' : List Char} (h : IsBlanks b) (h' : IsBlanks b') : Gap (b ++ '=' :: b')

inductive Puts : List Char → List Char → Prop
  | quoted (value : List Char) : Puts value ('"' :: (value ++ ['"']))
  | plain {value : List Char} (h : IsPlainValue value) : Puts value value

/-- A text is a line with a setting, and maybe the line feed that ends it. -/
def Spells (key value text : String) : Prop :=
  ∃ lead gap put trail, IsBlanks lead ∧ Gap gap ∧ Puts value.toList put ∧ IsBlanks trail ∧
    (text.toList = lead ++ (key.toList ++ gap ++ put) ++ trail ∨
      text.toList = lead ++ (key.toList ++ gap ++ put) ++ trail ++ ['\n'])

variable {key gap put value : List Char}

theorem IsBlanks.isBlank {s : List Char} (h : IsBlanks s) : ∀ c ∈ s, Text.isBlank c = true :=
  fun c hc => (h c hc).1

/-! ## Values -/

theorem unquote_quoted (value : List Char) : unquote ('"' :: (value ++ ['"'])) = value := by
  simp [unquote]

theorem IsPlainValue.unquote_eq (h : IsPlainValue value) : unquote value = value := by
  rw [unquote.eq_def]
  split
  · next rest =>
      refine if_neg fun hlast => h.no_quotes ⟨rfl, ?_⟩
      rw [List.getLast?_cons, hlast]
      rfl
  · rfl

theorem Puts.unquote_eq (h : Puts value put) : unquote put = value := by
  cases h with
  | quoted => exact unquote_quoted value
  | plain h => exact h.unquote_eq

/-- A value begins and ends with what is neither a blank nor an equals sign, however it is put. -/
theorem Puts.tight (h : Puts value put) : put ≠ [] ∧ IsTight put ∧ put.head? ≠ some '=' := by
  cases h with
  | quoted =>
      have hquote : Text.isBlank '"' = false := by decide
      refine ⟨by simp, ⟨?_, ?_⟩, by simp⟩
      · rintro c hc
        rwa [← Option.some.inj hc]
      · rintro c hc
        rw [← List.cons_append, List.getLast?_concat] at hc
        rwa [← Option.some.inj hc]
  | plain h => exact ⟨h.ne_nil, h.tight, h.no_equals⟩

/-! ## Gaps -/

theorem dropEquals_of_head {s : List Char} (h : s.head? ≠ some '=') : dropEquals s = s := by
  rw [dropEquals.eq_def]
  split
  · simp at h
  · rfl

theorem Gap.trim_append (hgap : Gap gap) (hput : put.head? ≠ some '=') (htight : IsTight put) :
    Text.trim (dropEquals (Text.trimStart (gap ++ put))) = put := by
  cases hgap with
  | blanks h =>
      rw [Text.trimStart_append_of_blank _ h.isBlank, Text.trimStart_eq_self htight.1,
        dropEquals_of_head hput, htight.trim_eq]
  | @equals b b' h h' =>
      have hequals : Text.isBlank '=' = false := by decide
      have hcut : Text.trimStart (b ++ '=' :: b' ++ put) = '=' :: (b' ++ put) := by
        rw [List.append_assoc, Text.trimStart_append_of_blank _ h.isBlank, List.cons_append,
          Text.trimStart_cons_of_not_blank _ hequals]
      have htrim := htight.trim_append (b := []) h'.isBlank (by simp)
      rw [List.append_nil] at htrim
      rw [hcut, dropEquals, htrim]

theorem Gap.exists_cons (hgap : Gap gap) : ∃ c rest, gap = c :: rest ∧ endsKeyword c = true := by
  cases hgap with
  | blanks h hne =>
      obtain ⟨c, rest, rfl⟩ := List.exists_cons_of_ne_nil hne
      exact ⟨c, rest, rfl, by simp [endsKeyword, (h c (by simp)).1]⟩
  | @equals b b' h h' =>
      cases b with
      | nil => exact ⟨'=', b', rfl, by decide⟩
      | cons c b => exact ⟨c, _, rfl, by simp [endsKeyword, (h c (by simp)).1]⟩

/-! ## Lines -/

theorem IsKeyword.tight_append (hkey : IsKeyword key) (hput : Puts value put) :
    IsTight (key ++ gap ++ put) := by
  obtain ⟨hne, htight, -⟩ := hput.tight
  refine ⟨fun c hc => ?_, fun c hc => ?_⟩
  · obtain ⟨k, key', rfl⟩ := List.exists_cons_of_ne_nil hkey.ne_nil
    obtain rfl : k = c := by simpa using hc
    have hplain := hkey.plain k (by simp)
    rw [endsKeyword, Bool.or_eq_false_iff] at hplain
    exact hplain.1
  · rw [List.getLast?_append, List.getLast?_eq_some_getLast hne, Option.some_or,
      ← List.getLast?_eq_some_getLast hne] at hc
    exact htight.2 c hc

theorem IsBlanks.not_mem {s : List Char} (h : IsBlanks s) : '\n' ∉ s :=
  fun hmem => (h '\n' hmem).2 rfl

theorem Gap.not_mem (hgap : Gap gap) : '\n' ∉ gap := by
  cases hgap with
  | blanks h => exact h.not_mem
  | equals h h' => simp [h.not_mem, h'.not_mem]

theorem Puts.not_mem (hput : Puts value put) (hvalue : '\n' ∉ value) : '\n' ∉ put := by
  cases hput with
  | quoted => simpa using hvalue
  | plain => exact hvalue

theorem IsKeyword.not_mem (hkey : IsKeyword key) : '\n' ∉ key := by
  intro hmem
  have hends : endsKeyword '\n' = true := by decide
  rw [hkey.plain _ hmem] at hends
  exact Bool.false_ne_true hends

theorem saying?_of_trim {line : List Char} (hkey : IsKeyword key) (hgap : Gap gap)
    (hput : Puts value put) (hline : Text.trim line = key ++ gap ++ put) :
    saying? line = some (.setting (String.ofList (Text.lower key)) (String.ofList value)) := by
  obtain ⟨hne, htight, hhead⟩ := hput.tight
  obtain ⟨c, rest, hc, hends⟩ := hgap.exists_cons
  have hplain : ∀ x ∈ key, (!endsKeyword x) = true := fun x hx => by simp [hkey.plain x hx]
  have htake : (key ++ gap ++ put).takeWhile (!endsKeyword ·) = key := by
    rw [List.append_assoc, List.takeWhile_append_of_pos hplain, hc, List.cons_append,
      List.takeWhile_cons_of_neg (by simp [hends]), List.append_nil]
  have hdrop : (key ++ gap ++ put).dropWhile (!endsKeyword ·) = gap ++ put := by
    rw [List.append_assoc, List.dropWhile_append_of_pos hplain, hc, List.cons_append,
      List.dropWhile_cons_of_neg (by simp [hends])]
  have hkeyword : keyword? line = some (String.ofList (Text.lower key)) := by
    obtain ⟨k, key', rfl⟩ := List.exists_cons_of_ne_nil hkey.ne_nil
    have hcomment : k ≠ '#' := by simpa using hkey.no_comment
    rw [keyword?, hline, htake, if_neg (by simp [hcomment])]
  have hargument : argument line = put := by
    rw [argument, hline, hdrop, hgap.trim_append hhead htight]
  have hempty : String.ofList (Text.lower key) ≠ "" := by
    intro hnil
    have hlower : Text.lower key = [] := by simpa using hnil
    exact hkey.ne_nil (Text.lowerFrom_eq_nil.1 hlower)
  have hsection := hkey.no_section
  rw [saying?_of_keyword? hkeyword hempty, hargument, if_neg hne, Saying.of, hput.unquote_eq]
  simp_all

theorem sayings_of_spells {key value text : String} (hkey : IsKeyword key.toList)
    (hvalue : '\n' ∉ value.toList) (h : Spells key value text) :
    sayings text = [.setting (Text.lowerString key) value] := by
  obtain ⟨lead, gap, put, trail, hlead, hgap, hput, htrail, htext⟩ := h
  have hnone : '\n' ∉ lead ++ (key.toList ++ gap ++ put) ++ trail := by
    simp [hlead.not_mem, hkey.not_mem, hgap.not_mem, hput.not_mem hvalue, htrail.not_mem]
  have hne : lead ++ (key.toList ++ gap ++ put) ++ trail ≠ [] := by simp [hkey.ne_nil]
  have htrim : Text.trim (lead ++ (key.toList ++ gap ++ put) ++ trail) = key.toList ++ gap ++ put :=
    (hkey.tight_append hput).trim_append hlead.isBlank htrail.isBlank
  have hline : ∃ line, Text.lines text.toList = [line] ∧
      Text.trim line = key.toList ++ gap ++ put := by
    rcases htext with htext | htext
    · exact ⟨_, by rw [htext, Text.lines_of_not_mem hne hnone], htrim⟩
    · refine ⟨_, ?_, (Text.trim_chompReturn _).trans htrim⟩
      rw [htext, Text.lines_append_newline hnone]
  obtain ⟨line, hlines, hline⟩ := hline
  have hsaying := saying?_of_trim hkey hgap hput hline
  rw [sayings, hlines, List.filterMap_cons_some hsaying, List.filterMap_nil, Text.lowerString,
    String.ofList_toList]

/-- A setting is found for every host, however it is spelled and in whatever letter case it is asked
for. -/
theorem found_of_spells {key value text asked : String} (hkey : IsKeyword key.toList)
    (hvalue : '\n' ∉ value.toList) (h : Spells key value text)
    (hasked : SameLetters asked.toList key.toList) (host : String) :
    (ofText text).get? host asked = some value := by
  have hlower : Text.lowerString asked = Text.lowerString key := by
    rw [Text.lowerString, Text.lowerString, Text.lower_eq_of_sameLetters hasked]
  rw [get?_ofText, sayings_of_spells hkey hvalue h, hlower]
  simp [firstValue?]

/-- Quotes, equals signs, number signs and outer blanks can be part of a value in quotes; a quote
and an equals sign can be part of one that stands as it is. -/
theorem found_of_spells_mixed :
    Spells "User" " =a#\"b\" " "\t\u00a0User =\u3000\" =a#\"b\" \" \r\n" ∧
      Spells "User" "\"a = #b" "User \"a = #b" ∧
      (ofText "\t\u00a0User =\u3000\" =a#\"b\" \" \r\n").get? "kvm1" "uSER" =
        some " =a#\"b\" " ∧
      (ofText "User \"a = #b").get? "kvm1" "uSER" = some "\"a = #b" := by
  have hkey : IsKeyword "User".toList :=
    ⟨by decide, by simp [endsKeyword, Text.isBlank], by decide, by decide⟩
  have hasked : SameLetters "uSER".toList "User".toList := by decide
  have hbefore : IsBlanks [' '] := by decide
  have hafter : IsBlanks ['\u3000'] := by decide
  have hgap : Gap " =\u3000".toList := .equals hbefore hafter
  have hquoted : Spells "User" " =a#\"b\" " "\t\u00a0User =\u3000\" =a#\"b\" \" \r\n" :=
    ⟨"\t\u00a0".toList, _, _, " \r".toList, by decide, hgap, .quoted _, by decide,
      .inr (by decide)⟩
  have hvalue : IsPlainValue "\"a = #b".toList :=
    ⟨by decide, ⟨by simp [Text.isBlank], by simp [Text.isBlank]⟩, by decide, by decide⟩
  have hplain : Spells "User" "\"a = #b" "User \"a = #b" :=
    ⟨[], [' '], _, [], by decide, .blanks (by decide) (by decide), .plain hvalue, by decide,
      .inl (by decide)⟩
  exact ⟨hquoted, hplain, found_of_spells hkey (by decide) hquoted hasked "kvm1",
    found_of_spells hkey (by decide) hplain hasked "kvm1"⟩

end SshTunnel.ClientConfig
