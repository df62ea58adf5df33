import SshTunnel.Proofs.Glob.Language
import SshTunnel.Proofs.Text.Lower

/-!
# Matching with one way back

A loop can match a pattern with a text if it remembers the last star it came by, and nothing of the
stars before it. From wherever pattern and text part it goes back to that star, which takes in one
character more (`Loop.retry`). The loop always comes to an end, with the answer of `matchesFrom`
(`Loop.answers_iff`). For texts without stars the answer is whether the text is of the pattern's
language; for all others it is never yes unless the text is.
-/

namespace SshTunnel.Glob

/-- Where the loop is: what is left of pattern and text. Of the last star it is known what follows
it in the pattern, and the text that it does not take in. -/
structure Loop where
  pattern : List Char
  host : List Char
  star : Option (List Char × List Char) := none

namespace Loop

/-- The last star takes in one character more. Without a star the answer is no. -/
def retry : Option (List Char × List Char) → Loop ⊕ Bool
  | some (p, h) => .inl ⟨p, h.tail, some (p, h.tail)⟩
  | none => .inr false

def round : Loop → Loop ⊕ Bool
  | ⟨p, [], _⟩ => .inr (onlyStars p)
  | ⟨[], _ :: _, star⟩ => retry star
  | ⟨x :: p, c :: h, star⟩ =>
      if x = '?' ∨ x = c then .inl ⟨p, h, star⟩
      else if x = '*' then .inl ⟨p, c :: h, some (p, c :: h)⟩
      else retry star

/-- After finitely many rounds the loop leaves with an answer. -/
inductive Answers : Loop → Bool → Prop
  | leave {l : Loop} {b : Bool} (h : l.round = .inr b) : Answers l b
  | next {l l' : Loop} {b : Bool} (h : l.round = .inl l') (hb : Answers l' b) : Answers l b

theorem Answers.unique {l : Loop} {b b' : Bool} (h : l.Answers b) (h' : l.Answers b') :
    b = b' := by
  induction h with
  | leave hround =>
      cases h' with
      | leave hround' => exact Sum.inr.inj (hround.symm.trans hround')
      | next hround' => exact absurd (hround.symm.trans hround') (by simp)
  | next hround _ ih =>
      cases h' with
      | leave hround' => exact absurd (hround.symm.trans hround') (by simp)
      | next hround' hb' =>
          obtain rfl := Sum.inl.inj (hround.symm.trans hround')
          exact ih hb'

end Loop

open Loop

variable {p p' h h' q g : List Char} {star : Option (List Char × List Char)} {b : Bool}

theorem Along.answers (hqg : Along q g) (hb : Answers ⟨p, h, star⟩ b) :
    Answers ⟨q ++ p, g ++ h, star⟩ b := by
  induction hqg with
  | nil => exact hb
  | cons hxc _ ih => exact .next (if_pos hxc) ih

namespace Loop

theorem answers_of_hostEnd {rest : List Char} (hadvance : advance p h = .hostEnd rest) :
    Answers ⟨p, h, star⟩ (onlyStars rest) := by
  obtain ⟨q, g, p', h', hqg, rfl, rfl, hstops⟩ := exists_stops p h
  rw [hadvance] at hstops
  cases hstops with
  | hostEnd => exact hqg.answers (.leave (by rw [round]))

theorem answers_of_star (hadvance : advance p h = .star p' h')
    (hb : Answers ⟨p', h', some (p', h')⟩ b) : Answers ⟨p, h, star⟩ b := by
  obtain ⟨q, g, _, _, hqg, rfl, rfl, hstops⟩ := exists_stops p h
  rw [hadvance] at hstops
  cases hstops with
  | star p' h' hc => exact hqg.answers (.next (by simp [round, hc.symm]) hb)

theorem round_of_stuck (hstops : Stops p h .stuck) : round ⟨p, h, star⟩ = retry star := by
  cases hstops with
  | patternEnd => rw [round]
  | differ p h hx hxc =>
      rw [Agrees] at hxc
      simp [round, hx, hxc]

theorem answers_afterStar (p h : List Char) : Answers ⟨p, h, some (p, h)⟩ (afterStar p h) := by
  fun_induction afterStar p h with
  | case1 p h rest hadvance => exact answers_of_hostEnd hadvance
  | case2 p h p' h' hadvance ih => exact answers_of_star hadvance ih
  | case3 p hadvance => simp [(Stops.hostEnd p).advance_eq] at hadvance
  | case4 p c h hadvance ih =>
      obtain ⟨q, g, p', h', hqg, hp, hh, hstops⟩ := exists_stops p (c :: h)
      rw [hadvance] at hstops
      have hretry : Answers ⟨p', h', some (p, c :: h)⟩ (afterStar p h) :=
        .next (round_of_stuck hstops) ih
      have hall := hqg.answers hretry
      rwa [← hp, ← hh] at hall

/-- The loop comes to an end from every start, with the one answer that `matchesFrom` gives. -/
theorem answers_iff (p h : List Char) (b : Bool) :
    Answers ⟨p, h, none⟩ b ↔ b = matchesFrom p h := by
  have hanswers : Answers ⟨p, h, none⟩ (matchesFrom p h) := by
    rw [matchesFrom]
    split
    · next rest hadvance => exact answers_of_hostEnd hadvance
    · next p' h' hadvance => exact answers_of_star hadvance (answers_afterStar p' h')
    · next hadvance =>
        obtain ⟨q, g, p', h', hqg, rfl, rfl, hstops⟩ := exists_stops p h
        rw [hadvance] at hstops
        exact hqg.answers (.leave (round_of_stuck hstops))
  constructor
  · exact fun hb => hb.unique hanswers
  · rintro rfl
    exact hanswers

end Loop

/-! ## Letter case aside -/

/-- For a pattern and a host in lower case the loop comes to an end, and its one answer is whether
the pattern matches. A host that matches is of the pattern's language; one without a star matches
iff it is. -/
theorem wildcardMatches_decides_language (pattern host : String) :
    (∀ b, Answers ⟨Text.lower pattern.toList, Text.lower host.toList, none⟩ b ↔
        b = wildcardMatches pattern host) ∧
      (wildcardMatches pattern host = true →
        Text.lower host.toList ∈ language (Text.lower pattern.toList)) ∧
      ('*' ∉ host.toList →
        (wildcardMatches pattern host = true ↔
          Text.lower host.toList ∈ language (Text.lower pattern.toList))) := by
  refine ⟨fun b => answers_iff _ _ b, mem_language_of_matchesFrom, fun hstar => ?_⟩
  have hdivider : Text.IsDivider '*' := by decide
  exact matchesFrom_eq_true_iff fun hmem => hstar (hdivider.mem_lower_iff.1 hmem)

/-- The part between two stars is looked for again where the text does not go on as the pattern
does. -/
theorem wildcardMatches_decides_repeated_part :
    '*' ∉ "kvm-kvm1-KVM12".toList ∧
      Text.lower "kvm-kvm1-KVM12".toList ∈ language (Text.lower "*kvm1?".toList) ∧
      Text.lower "kvm-kvm1-KVM12".toList ∉ language (Text.lower "*kvm1?2*".toList) := by
  have hstar : '*' ∉ "kvm-kvm1-KVM12".toList := by decide
  have hmatch : wildcardMatches "*kvm1?" "kvm-kvm1-KVM12" = true := by cbv
  have hdiffer : wildcardMatches "*kvm1?2*" "kvm-kvm1-KVM12" = false := by cbv
  refine ⟨hstar, ((wildcardMatches_decides_language _ _).2.2 hstar).1 hmatch, fun hmem => ?_⟩
  have hmatches := ((wildcardMatches_decides_language _ _).2.2 hstar).2 hmem
  rw [hdiffer] at hmatches
  exact absurd hmatches (by decide)

end SshTunnel.Glob
