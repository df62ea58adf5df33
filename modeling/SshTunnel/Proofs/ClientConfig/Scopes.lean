import Mathlib.Data.List.Induction
import SshTunnel.Proofs.ClientConfig.OnePass

/-!
# Headings and their scope

A line with the keyword `Host` or `Match` is a heading, whatever follows the keyword, and it is bare
if nothing does. A value comes from the line that a reading finds it with (`Supplies`). The last
heading before that line which is not bare applies to the host (`Supplies.appliesTo`). A bare
heading ought to be the start of a section that applies to no host, but a reading overlooks it as it
does a blank line. So a value is in scope iff the last heading before it is not bare
(`inScope_iff_not_isBare`).
-/

namespace SshTunnel.ClientConfig

/-! ## Headings -/

def IsHeading (line : List Char) : Prop :=
  keyword? line = some "host" ∨ keyword? line = some "match"

/-- Nothing follows the keyword of a line. -/
def IsBare (line : List Char) : Prop :=
  argument line = []

def AppliesTo (heading : List Char) (host : String) : Prop :=
  keyword? heading = some "host" ∧ Glob.listMatches (patternsOf (argument heading)) host = true

instance (line : List Char) : Decidable (IsHeading line) :=
  inferInstanceAs (Decidable (_ ∨ _))

instance (line : List Char) : Decidable (IsBare line) :=
  inferInstanceAs (Decidable (_ = _))

instance (heading : List Char) (host : String) : Decidable (AppliesTo heading host) :=
  inferInstanceAs (Decidable (_ ∧ _))

variable {line heading : List Char} {before : List (List Char)} {text host keyword v : String}

theorem not_appliesTo_of_isBare (h : IsBare heading) : ¬ AppliesTo heading host := by
  rintro ⟨-, hmatches⟩
  have hnone : patternsOf (argument heading) = [] := by rw [show argument heading = [] from h]; rfl
  rw [hnone, Glob.listMatches_nil] at hmatches
  exact Bool.false_ne_true hmatches

/-- What a line says does not change whether settings count, unless it is a heading. -/
theorem activeAfter_of_not_isHeading {s : Saying} {active : Bool} (hs : saying? line = some s)
    (h : ¬ IsHeading line) : s.activeAfter host active = active := by
  obtain ⟨k, hk, rfl⟩ := exists_keyword?_of_saying? hs
  rw [IsHeading, hk] at h
  rw [Saying.activeAfter_of]
  simp_all

theorem IsHeading.saying?_eq (h : IsHeading line) :
    ∃ k, (k = "host" ∨ k = "match") ∧ keyword? line = some k ∧
      saying? line = if argument line = [] then none else some (.of k (argument line)) := by
  rcases h with h | h
  · exact ⟨_, .inl rfl, h, saying?_of_keyword? h (by decide)⟩
  · exact ⟨_, .inr rfl, h, saying?_of_keyword? h (by decide)⟩

theorem saying?_of_isBare (h : IsHeading line) (hbare : IsBare line) : saying? line = none := by
  obtain ⟨k, -, -, hsaying⟩ := h.saying?_eq
  exact hsaying.trans (if_pos hbare)

theorem exists_saying?_of_isHeading (host : String) (h : IsHeading line) (hbare : ¬ IsBare line) :
    ∃ s, saying? line = some s ∧
      ∀ active, s.activeAfter host active = true ↔ AppliesTo line host := by
  obtain ⟨k, hk, hkeyword, hsaying⟩ := h.saying?_eq
  refine ⟨_, hsaying.trans (if_neg hbare), fun active => ?_⟩
  rw [Saying.activeAfter_of, AppliesTo, hkeyword]
  rcases hk with rfl | rfl
  · simp
  · simp

/-! ## One more line -/

namespace Reading

variable (r : Reading)

theorem active_line_of_isHeading (h : IsHeading line) (hbare : ¬ IsBare line) :
    (r.line line).active host = true ↔ AppliesTo line host := by
  obtain ⟨s, hs, hactive⟩ := exists_saying?_of_isHeading host h hbare
  rw [line_eq_take, hs, Option.map_some, Option.getD_some, active_take, hactive]

/-- A line that is no heading leaves it as it was whether settings count, and so does a bare one. -/
theorem active_line_of_not_isHeading (h : ¬ (IsHeading line ∧ ¬ IsBare line)) :
    (r.line line).active host = r.active host := by
  rw [line_eq_take]
  cases hs : saying? line with
  | none => rfl
  | some s =>
      have hheading : ¬ IsHeading line := by
        intro hheading
        by_cases hbare : IsBare line
        · simp [saying?_of_isBare hheading hbare] at hs
        · exact h ⟨hheading, hbare⟩
      rw [Option.map_some, Option.getD_some, active_take, activeAfter_of_not_isHeading hs hheading]

theorem active_foldl_line {lines : List (List Char)}
    (h : ∀ line ∈ lines, ¬ (IsHeading line ∧ ¬ IsBare line)) :
    (lines.foldl Reading.line r).active host = r.active host := by
  induction lines generalizing r with
  | nil => rfl
  | cons line lines ih =>
      rw [List.foldl_cons, ih _ fun l hl => h l (by simp [hl]),
        active_line_of_not_isHeading r (h line (by simp))]

theorem get?_line (line : List Char) :
    (r.line line).config.get? host keyword =
      (r.config.get? host keyword).or
        (if r.active host then (saying? line).bind (·.value? (Text.lowerString keyword))
          else none) := by
  rw [line_eq_take]
  cases saying? line with
  | none => simp
  | some s => exact r.get?_take host keyword s

theorem get?_foldl_line {lines : List (List Char)} (h : r.config.get? host keyword = some v) :
    (lines.foldl Reading.line r).config.get? host keyword = some v := by
  rw [foldl_line, get?_foldl_take, h, Option.some_or]

end Reading

/-! ## Where a value comes from -/

def read (lines : List (List Char)) : Reading :=
  lines.foldl Reading.line {}

theorem ofText_eq_read (text : String) : ofText text = (read (Text.lines text.toList)).config := rfl

theorem read_append_singleton (before : List (List Char)) (line : List Char) :
    read (before ++ [line]) = (read before).line line := by
  rw [read, List.foldl_append, List.foldl_cons, List.foldl_nil, read]

/-- The value of a keyword for a host comes from a line: with the lines before it none is found,
and with this line it is. -/
structure Supplies (host keyword : String) (before : List (List Char)) (line : List Char)
    (v : String) : Prop where
  missing : (read before).config.get? host keyword = none
  found : (read (before ++ [line])).config.get? host keyword = some v

/-- A value comes from a setting of the keyword, at a place where settings count. -/
theorem supplies_iff :
    Supplies host keyword before line v ↔
      (read before).config.get? host keyword = none ∧ (read before).active host = true ∧
        saying? line = some (.setting (Text.lowerString keyword) v) := by
  have hfound (hmissing : (read before).config.get? host keyword = none) :
      (read (before ++ [line])).config.get? host keyword = some v ↔
        (read before).active host = true ∧
          saying? line = some (.setting (Text.lowerString keyword) v) := by
    rw [read_append_singleton, Reading.get?_line, hmissing, Option.none_or,
      Option.ite_none_right_eq_some]
    simp [Option.bind_eq_some_iff, Saying.value?_eq_some_iff]
  constructor
  · rintro ⟨hmissing, h⟩
    exact ⟨hmissing, (hfound hmissing).1 h⟩
  · rintro ⟨hmissing, h⟩
    exact ⟨hmissing, (hfound hmissing).2 h⟩

/-- Every value that is found comes from one of the lines, and what comes from one is found. -/
theorem get?_read_eq_some_iff {lines : List (List Char)} :
    (read lines).config.get? host keyword = some v ↔
      ∃ before line after, lines = before ++ line :: after ∧
        Supplies host keyword before line v := by
  constructor
  · intro h
    induction lines using List.reverseRecOn with
    | nil => simp [read, Reading.config, get?, Section.appliesTo] at h
    | append_singleton lines last ih =>
        cases hlines : (read lines).config.get? host keyword with
        | none => exact ⟨lines, last, [], rfl, hlines, h⟩
        | some w =>
            rw [read_append_singleton, Reading.get?_line, hlines, Option.some_or] at h
            obtain ⟨before, line, after, rfl, hsupplies⟩ := ih (hlines.trans h)
            exact ⟨before, line, after ++ [last], by simp, hsupplies⟩
  · rintro ⟨before, line, after, rfl, hsupplies⟩
    rw [read, List.append_cons, List.foldl_append]
    exact Reading.get?_foldl_line _ hsupplies.found

/-! ## Scope -/

def IsLast (kind : List Char → Prop) (before : List (List Char)) (line : List Char) : Prop :=
  ∃ earlier between, before = earlier ++ line :: between ∧ kind line ∧ ∀ l ∈ between, ¬ kind l

theorem active_read_iff (h : IsLast (fun l => IsHeading l ∧ ¬ IsBare l) before heading) :
    (read before).active host = true ↔ AppliesTo heading host := by
  obtain ⟨earlier, between, rfl, ⟨hheading, hbare⟩, hbetween⟩ := h
  rw [read, List.foldl_append, List.foldl_cons, Reading.active_foldl_line _ hbetween,
    Reading.active_line_of_isHeading _ hheading hbare]

theorem Supplies.appliesTo (h : Supplies host keyword before line v)
    (hlast : IsLast (fun l => IsHeading l ∧ ¬ IsBare l) before heading) : AppliesTo heading host :=
  (active_read_iff hlast).1 (supplies_iff.1 h).2.1

theorem Supplies.appliesTo_iff (h : Supplies host keyword before line v)
    (hlast : IsLast IsHeading before heading) : AppliesTo heading host ↔ ¬ IsBare heading := by
  refine ⟨fun happlies hbare => not_appliesTo_of_isBare hbare happlies, fun hbare => ?_⟩
  obtain ⟨earlier, between, hbefore, hheading, hbetween⟩ := hlast
  exact h.appliesTo ⟨earlier, between, hbefore, ⟨hheading, hbare⟩,
    fun l hl hkind => hbetween l hl hkind.1⟩

/-- The value of a keyword for a host comes from a line before which the last heading, if there is
one, applies to the host. -/
def InScope (text host keyword : String) : Prop :=
  ∀ before line after v, Text.lines text.toList = before ++ line :: after →
    Supplies host keyword before line v →
    ∀ heading, IsLast IsHeading before heading → AppliesTo heading host

/-- Every value that is found comes from a line, and the last heading before it which is not bare
applies to the host. It is in scope iff the last heading of all before it is not bare. -/
theorem inScope_iff_not_isBare (text host keyword : String) :
    (∀ v, (ofText text).get? host keyword = some v ↔
        ∃ before line after, Text.lines text.toList = before ++ line :: after ∧
          Supplies host keyword before line v) ∧
      (∀ before line v heading, Supplies host keyword before line v →
        IsLast (fun l => IsHeading l ∧ ¬ IsBare l) before heading → AppliesTo heading host) ∧
      (InScope text host keyword ↔
        ∀ before line after v, Text.lines text.toList = before ++ line :: after →
          Supplies host keyword before line v →
          ∀ heading, IsLast IsHeading before heading → ¬ IsBare heading) := by
  refine ⟨fun v => ?_, fun before line v heading h hlast => h.appliesTo hlast, ?_⟩
  · rw [ofText_eq_read, get?_read_eq_some_iff]
  · constructor
    · intro hscope before line after v hlines hsupplies heading hlast
      exact (hsupplies.appliesTo_iff hlast).1 (hscope before line after v hlines hsupplies _ hlast)
    · intro hbare before line after v hlines hsupplies heading hlast
      exact (hsupplies.appliesTo_iff hlast).2 (hbare before line after v hlines hsupplies _ hlast)

/-- What follows a bare `Host` is found for every host. -/
theorem not_inScope_of_bare_host :
    (ofText "Host\n  User root\n").get? "kvm1" "User" = some "root" ∧
      ¬ InScope "Host\n  User root\n" "kvm1" "User" := by
  have hlines : Text.lines "Host\n  User root\n".toList =
      ["Host".toList, "  User root".toList] := by decide
  have hsupplies : Supplies "kvm1" "User" ["Host".toList] "  User root".toList "root" :=
    ⟨by decide +kernel, by decide +kernel⟩
  have hlast : IsLast IsHeading ["Host".toList] "Host".toList :=
    ⟨[], [], rfl, by decide +kernel, by simp⟩
  refine ⟨by decide +kernel, fun hscope => ?_⟩
  exact absurd (hscope ["Host".toList] _ [] "root" hlines hsupplies _ hlast)
    (not_appliesTo_of_isBare (by decide +kernel))

end SshTunnel.ClientConfig
