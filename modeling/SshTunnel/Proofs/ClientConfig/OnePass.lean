import SshTunnel.Proofs.ClientConfig.Sayings

/-!
# Client configurations in one pass

`ClientConfig.ofText` sorts the directives of a text into sections, and `ClientConfig.get?` goes
through the sections that apply to a host. A value can be found without sections: in one pass over
what the lines say it is enough to know whether settings count for the host there (`firstValue?`).
What a reading finds in the end is what it has found so far, or else what the pass finds in the rest
(`Reading.get?_foldl_take`).
-/

namespace SshTunnel.ClientConfig

def sayings (text : String) : List Saying :=
  (Text.lines text.toList).filterMap saying?

/-- The first value that a keyword is given where settings count for the host; `active` tells
whether they do at the start. -/
def firstValue? (host keyword : String) : (active : Bool) → List Saying → Option String
  | _, [] => none
  | _, .host patterns :: rest => firstValue? host keyword (Glob.listMatches patterns host) rest
  | _, .condition _ :: rest => firstValue? host keyword false rest
  | active, .inclusion _ :: rest => firstValue? host keyword active rest
  | active, .setting k v :: rest =>
      if active = true ∧ k = keyword then some v else firstValue? host keyword active rest

theorem firstValue?_cons (host keyword : String) (active : Bool) (s : Saying)
    (rest : List Saying) :
    firstValue? host keyword active (s :: rest) =
      (if active then s.value? keyword else none).or
        (firstValue? host keyword (s.activeAfter host active) rest) := by
  cases s with
  | host patterns => simp [firstValue?, Saying.value?, Saying.activeAfter]
  | condition text => simp [firstValue?, Saying.value?, Saying.activeAfter]
  | inclusion text => simp [firstValue?, Saying.value?, Saying.activeAfter]
  | setting k v =>
      by_cases hk : active = true ∧ k = keyword
      · simp [firstValue?, Saying.value?, hk]
      · rw [firstValue?, if_neg hk]
        cases active with
        | false => rfl
        | true => simp_all [Saying.value?, Saying.activeAfter]

namespace Reading

variable (r : Reading) (host keyword : String)

theorem foldl_line (lines : List (List Char)) :
    lines.foldl Reading.line r = (lines.filterMap saying?).foldl take r := by
  induction lines generalizing r with
  | nil => rfl
  | cons line lines ih =>
      rw [List.foldl_cons, line_eq_take, ih]
      cases hsaying : saying? line with
      | none => rw [List.filterMap_cons_none hsaying, Option.map_none, Option.getD_none]
      | some s =>
          rw [List.filterMap_cons_some hsaying, Option.map_some, Option.getD_some, List.foldl_cons]

theorem get?_foldl_take (rest : List Saying) :
    (rest.foldl take r).config.get? host keyword =
      (r.config.get? host keyword).or
        (firstValue? host (Text.lowerString keyword) (r.active host) rest) := by
  induction rest generalizing r with
  | nil => simp [firstValue?]
  | cons s rest ih =>
      rw [List.foldl_cons, ih, get?_take, active_take, firstValue?_cons, Option.or_assoc]

theorem skipped_foldl_take (rest : List Saying) :
    (rest.foldl take r).skipped = r.skipped ++ rest.filterMap Saying.skipped? := by
  induction rest generalizing r with
  | nil => simp
  | cons s rest ih =>
      rw [List.foldl_cons, ih, skipped_take, List.append_assoc]
      cases hs : s.skipped? with
      | none => simp [List.filterMap_cons_none hs]
      | some text => simp [List.filterMap_cons_some hs]

end Reading

theorem ofText_eq (text : String) :
    ofText text = ((sayings text).foldl Reading.take {}).config := by
  rw [sayings, ← Reading.foldl_line]
  rfl

theorem get?_ofText (text host keyword : String) :
    (ofText text).get? host keyword =
      firstValue? host (Text.lowerString keyword) true (sayings text) := by
  rw [ofText_eq, Reading.get?_foldl_take]
  rfl

/-- Looking a keyword up in the sections of a text gives what one pass over its lines finds, which
starts where settings count for every host. The lines that are not evaluated are listed in their
order. -/
theorem lookup_eq_onePass (text host keyword : String) :
    (ofText text).get? host keyword =
        firstValue? host (Text.lowerString keyword) true (sayings text) ∧
      (ofText text).skipped = (sayings text).filterMap Saying.skipped? := by
  refine ⟨get?_ofText text host keyword, ?_⟩
  rw [ofText_eq]
  exact Reading.skipped_foldl_take {} (sayings text)

/-- Nothing under a condition counts, not even after an inclusion. -/
example : firstValue? "kvm1" "user" true
    (sayings "Match all\nUser a\nInclude x\nUser b\nHost kvm?\nUser c\nuser = d\n") = some "c" := by
  decide +kernel

end SshTunnel.ClientConfig
