import Mathlib.Data.List.Basic
import SshTunnel.Environment.Template
import SshTunnel.Proofs.Text.Cuts

/-!
# The variables that a template mentions

A path template depends on an environment through the home directory and through the variables that
it mentions, and through nothing else (`expand_congr`). What it is read as referring to stands in it
after a dollar sign (`refersTo_of_mem_segments`), so no other variable can have a part.
-/

namespace SshTunnel.Template

/-- A text refers to a name: the name follows a dollar sign, between braces or as a whole word. -/
inductive RefersTo : List Char → List Char → Prop
  | braced (a b : List Char) {name : List Char} (closed : '}' ∉ name) :
      RefersTo (a ++ '$' :: '{' :: (name ++ '}' :: b)) name
  | bare (a b : List Char) {name : List Char} (hne : name ≠ [])
      (word : ∀ c ∈ name, isNameChar c = true)
      (ends : ∀ c, b.head? = some c → isNameChar c = false) :
      RefersTo (a ++ '$' :: (name ++ b)) name

theorem RefersTo.append {s name : List Char} (h : RefersTo s name) (before : List Char) :
    RefersTo (before ++ s) name := by
  cases h with
  | braced a b closed =>
      rw [← List.append_assoc]
      exact .braced (before ++ a) b closed
  | bare a b hne word ends =>
      rw [← List.append_assoc]
      exact .bare (before ++ a) b hne word ends

theorem RefersTo.cons {s name : List Char} (h : RefersTo s name) (c : Char) :
    RefersTo (c :: s) name :=
  h.append [c]

/-- A word after a dollar sign reaches as far as it can. -/
theorem refersTo_takeWhile {s : List Char} (h : s.takeWhile isNameChar ≠ []) :
    RefersTo ('$' :: s) (s.takeWhile isNameChar) := by
  have hword : ∀ c ∈ s.takeWhile isNameChar, isNameChar c = true := fun c hc =>
    List.mem_takeWhile_imp hc
  have hrefers := RefersTo.bare [] (s.dropWhile isNameChar) h hword
    fun c hc => Text.eq_false_of_head?_dropWhile hc
  rwa [List.takeWhile_append_dropWhile] at hrefers

/-- What a text is read as referring to stands in it. -/
theorem refersTo_of_mem_segments {s name : List Char} (h : .reference name ∈ segments s) :
    RefersTo s name := by
  fun_induction segments s with
  | case1 => simp at h
  | case2 r first rest hcut ih =>
      obtain ⟨hclosed, rfl⟩ := Text.splitFirst_eq_some_iff.1 hcut
      rcases List.mem_cons.1 h with heq | hrest
      · obtain rfl : name = first := by simpa using heq
        exact .braced [] rest hclosed
      · simpa using (ih hrest).append ('$' :: '{' :: (first ++ ['}']))
  | case3 r hopen ih => exact (ih (by simpa using h)).cons '$'
  | case4 s hbrace hword ih => exact (ih (by simpa using h)).cons '$'
  | case5 s hbrace hword ih =>
      rcases List.mem_cons.1 h with heq | hrest
      · obtain rfl : name = s.takeWhile isNameChar := by simpa using heq
        exact refersTo_takeWhile hword
      · have hrefers := (ih hrest).append (s.takeWhile isNameChar)
        rw [List.takeWhile_append_dropWhile] at hrefers
        exact hrefers.cons '$'
  | case6 c s hc ih => exact (ih (by simpa using h)).cons c

/-- A template refers to the home directory, or to names that stand in it. -/
theorem eq_home_or_refersTo_of_mem_read {s name : List Char} (h : .reference name ∈ read s) :
    name = "HOME".toList ∨ RefersTo s name := by
  rw [read.eq_def] at h
  split at h
  · exact .inl (by simpa using h)
  · rcases List.mem_cons.1 h with heq | hrest
    · exact .inl (by simpa using heq)
    · exact .inr ((refersTo_of_mem_segments hrest).cons '~')
  · exact .inr (refersTo_of_mem_segments h)

/-- A template mentions a variable: it is read as referring to it, and the name stands in it. -/
structure Mentions (template name : String) : Prop where
  read : .reference name.toList ∈ read template.toList
  stands : RefersTo template.toList name.toList

/-- Environments with the same home directory that agree on the variables that a template mentions
give it the same path. -/
theorem expand_congr {template : String} {env env' : Environment} (home : env'.home = env.home)
    (h : ∀ name, Mentions template name → env'.var name = env.var name) :
    expand env' template = expand env template := by
  have hvalue : ∀ segment ∈ read template.toList, segment.value env' = segment.value env := by
    intro segment hsegment
    cases segment with
    | char c => rfl
    | reference name =>
        have hvar : env'.var (String.ofList name) = env.var (String.ofList name) := by
          rcases eq_home_or_refersTo_of_mem_read hsegment with rfl | hrefers
          · rw [String.ofList_toList]
            exact home
          · exact h _ ⟨by rwa [String.toList_ofList], by rwa [String.toList_ofList]⟩
        rw [Segment.value, hvar, Segment.value]
  have hpath : (read template.toList).flatMap (·.value env') =
      (read template.toList).flatMap (·.value env) := List.flatMap_congr hvalue
  rw [expand, hpath, expand]

end SshTunnel.Template
