import SshTunnel.ClientConfig
import SshTunnel.Proofs.Glob.Language
import SshTunnel.Proofs.KnownHosts.Identity
import SshTunnel.Proofs.Text.Lower

/-!
# What a star at the end of a pattern takes in

A star at the end of a pattern takes in whatever follows a text that the pattern matches, unless
that starts with a star and goes on: the star of the pattern is then taken for the one of the text
and nothing is left for the rest (`IsAbsorbed`). So a pattern that is nothing but a star matches
the absorbed texts alone.
-/

namespace SshTunnel.Glob

/-- A text that is a star, or does not start with one. -/
def IsAbsorbed (s : List Char) : Prop :=
  s.head? ≠ some '*' ∨ s = ['*']

instance (s : List Char) : Decidable (IsAbsorbed s) :=
  inferInstanceAs (Decidable (_ ∨ _))

variable {p h q g s : List Char}

/-! ## Nothing but stars -/

theorem afterStar_nil (h : List Char) : afterStar [] h = true := by
  induction h with
  | nil => exact afterStar_of_hostEnd (Stops.hostEnd []).advance_eq
  | cons c h ih => rw [afterStar_of_stuck (Stops.patternEnd c h).advance_eq, ih]

theorem onlyStars_cons {x : Char} : onlyStars (x :: p) = true ↔ x = '*' ∧ onlyStars p = true := by
  simp [onlyStars]

theorem afterStar_of_onlyStars (hp : onlyStars p = true) (hh : h.head? ≠ some '*') :
    afterStar p h = true := by
  induction p with
  | nil => exact afterStar_nil h
  | cons x p ih =>
      obtain ⟨rfl, hrest⟩ := onlyStars_cons.1 hp
      cases h with
      | nil => rwa [afterStar_of_hostEnd (Stops.hostEnd _).advance_eq]
      | cons c h =>
          rw [afterStar_of_star (Stops.star p h (by simpa using hh)).advance_eq]
          exact ih hrest

theorem matchesFrom_star_cons (hp : onlyStars p = true) (hs : IsAbsorbed s) :
    matchesFrom ('*' :: p) s = true := by
  cases s with
  | nil =>
      rw [matchesFrom, (Stops.hostEnd _).advance_eq]
      exact onlyStars_cons.2 ⟨rfl, hp⟩
  | cons c s =>
      by_cases hc : c = '*'
      · obtain rfl : s = [] := by simpa [IsAbsorbed, hc] using hs
        have hadvance : advance ('*' :: p) [c] = .hostEnd p := by simp [advance, hc]
        rw [matchesFrom, hadvance]
        exact hp
      · rw [matchesFrom, (Stops.star p s hc).advance_eq]
        exact afterStar_of_onlyStars hp (by simpa using hc)

theorem matchesFrom_star_iff : matchesFrom ['*'] s = true ↔ IsAbsorbed s := by
  refine ⟨fun hmatch => ?_, matchesFrom_star_cons rfl⟩
  by_contra hs
  obtain ⟨hhead, hne⟩ : s.head? = some '*' ∧ s ≠ ['*'] := by
    simpa [IsAbsorbed, not_or] using hs
  obtain ⟨t, rfl⟩ := List.head?_eq_some_iff.1 hhead
  cases t with
  | nil => exact hne rfl
  | cons c t =>
      have hadvance : advance ['*'] ('*' :: c :: t) = .stuck := by simp [advance]
      rw [matchesFrom, hadvance] at hmatch
      simp at hmatch

/-! ## A star after a pattern that matches -/

theorem Along.matchesFrom_append (hqg : Along q g) (p h : List Char) :
    matchesFrom (q ++ p) (g ++ h) = matchesFrom p h := by
  rw [matchesFrom, matchesFrom, hqg.advance_append]

theorem afterStar_of_matchesFrom (hmatch : matchesFrom p h = true) : afterStar p h = true := by
  rw [matchesFrom] at hmatch
  split at hmatch
  · next rest hadvance => rwa [afterStar_of_hostEnd hadvance]
  · next p' h' hadvance => rwa [afterStar_of_star hadvance]
  · simp at hmatch

theorem matchesFrom_append_star_of_hostEnd {rest : List Char}
    (hadvance : advance p h = .hostEnd rest) (hrest : onlyStars rest = true) (hs : IsAbsorbed s) :
    matchesFrom (p ++ ['*']) (h ++ s) = true := by
  obtain ⟨q, g, p', h', hqg, rfl, rfl, hstops⟩ := exists_stops p h
  rw [hadvance] at hstops
  cases hstops with
  | hostEnd =>
      rw [List.append_nil, List.append_assoc, hqg.matchesFrom_append]
      -- the star may as well stand before the other stars
      cases rest with
      | nil => exact matchesFrom_star_cons rfl hs
      | cons x rest =>
          obtain ⟨rfl, hrest⟩ := onlyStars_cons.1 hrest
          exact matchesFrom_star_cons (by simpa [onlyStars] using hrest) hs

theorem advance_append_star_of_star {p' h' : List Char} (hadvance : advance p h = .star p' h') :
    advance (p ++ ['*']) (h ++ s) = .star (p' ++ ['*']) (h' ++ s) := by
  obtain ⟨q, g, _, _, hqg, rfl, rfl, hstops⟩ := exists_stops p h
  rw [hadvance] at hstops
  cases hstops with
  | star p' h' hc =>
      rw [List.append_assoc, List.append_assoc, hqg.advance_append]
      exact (Stops.star _ _ hc).advance_eq

/-- Where a pattern gets stuck, the star after it may be reached, and takes in the rest or is
itself taken for the last character of the text. Otherwise the pattern is stuck as before. -/
theorem advance_append_star_of_stuck (hadvance : advance p h = .stuck) :
    (∃ h', advance (p ++ ['*']) (h ++ s) = .star [] h') ∨
      advance (p ++ ['*']) (h ++ s) = .hostEnd [] ∨
      advance (p ++ ['*']) (h ++ s) = .stuck := by
  obtain ⟨q, g, p', h', hqg, rfl, rfl, hstops⟩ := exists_stops p h
  rw [hadvance] at hstops
  rw [List.append_assoc, List.append_assoc, hqg.advance_append]
  cases hstops with
  | patternEnd c h =>
      rw [List.nil_append, List.cons_append]
      by_cases hc : c = '*'
      · have hpass : advance ['*'] (c :: (h ++ s)) = advance [] (h ++ s) := by simp [advance, hc]
        rw [hpass]
        cases h ++ s with
        | nil => exact .inr (.inl (Stops.hostEnd []).advance_eq)
        | cons d t => exact .inr (.inr (Stops.patternEnd d t).advance_eq)
      · exact .inl ⟨_, (Stops.star [] (h ++ s) hc).advance_eq⟩
  | differ p h hx hxc => exact .inr (.inr (Stops.differ _ _ hx hxc).advance_eq)

theorem afterStar_append_star (hs : IsAbsorbed s) (hmatch : afterStar p h = true) :
    afterStar (p ++ ['*']) (h ++ s) = true := by
  fun_induction afterStar p h with
  | case1 p h rest hadvance =>
      exact afterStar_of_matchesFrom (matchesFrom_append_star_of_hostEnd hadvance hmatch hs)
  | case2 p h p' h' hadvance ih =>
      rw [afterStar_of_star (advance_append_star_of_star hadvance)]
      exact ih hmatch
  | case3 p hadvance => simp at hmatch
  | case4 p c h hadvance ih =>
      obtain ⟨h', hall⟩ | hall | hall := advance_append_star_of_stuck (s := s) hadvance
      · rw [afterStar_of_star hall]
        exact afterStar_nil h'
      · rw [afterStar_of_hostEnd hall]
        rfl
      · rw [List.cons_append] at hall ⊢
        rw [afterStar_of_stuck hall]
        exact ih hmatch

theorem matchesFrom_append_star (hs : IsAbsorbed s) (hmatch : matchesFrom p h = true) :
    matchesFrom (p ++ ['*']) (h ++ s) = true := by
  rw [matchesFrom] at hmatch
  split at hmatch
  · next rest hadvance => exact matchesFrom_append_star_of_hostEnd hadvance hmatch hs
  · next p' h' hadvance =>
      rw [matchesFrom, advance_append_star_of_star hadvance]
      exact afterStar_append_star hs hmatch
  · simp at hmatch

/-! ## Letter case aside -/

theorem isAbsorbed_lower (s : List Char) : IsAbsorbed (Text.lower s) ↔ IsAbsorbed s := by
  have hstar : Text.IsDivider '*' := by decide
  cases s with
  | nil => rfl
  | cons c s =>
      by_cases hc : c = '*'
      · subst hc
        have hlower : Text.lower ('*' :: s) = '*' :: Text.lower s := hstar.lower_append_cons [] s
        have hempty : Text.lower s = [] ↔ s = [] := Text.lowerFrom_eq_nil
        rw [hlower]
        simp [IsAbsorbed, hempty]
      · have hlower : (Text.lower (c :: s)).head? ≠ some '*' := fun h =>
          hc (by simpa using hstar.head?_of_head?_lower h)
        simp [IsAbsorbed, hlower, hc]

theorem wildcardMatches_star_iff (host : String) :
    wildcardMatches "*" host = true ↔ IsAbsorbed host.toList := by
  have hstar : Text.lower "*".toList = ['*'] := by decide
  rw [wildcardMatches, hstar, matchesFrom_star_iff, isAbsorbed_lower]

theorem listMatches_star (host : String) : listMatches ["*"] host = wildcardMatches "*" host := by
  have hplain : negated? "*" = none := by decide
  rw [listMatches, listMatchesFrom, hplain]
  rfl

theorem listMatches_not_star (patterns : List String) (host : String) :
    listMatches ("!*" :: patterns) host =
      if wildcardMatches "*" host then false else listMatches patterns host := by
  have hnegated : negated? "!*" = some "*" := by decide
  rw [listMatches, listMatchesFrom, hnegated, listMatches]

/-- A continuation is taken in by a star after every pattern that matches iff it is absorbed. So an
entry for all hosts is for the absorbed ones, and a list that excludes all hosts excludes these. -/
theorem trailing_star_absorbs_iff {s : String} (hs : Text.IsSettled s.toList) :
    ((∀ pattern host : String, Text.IsSettled host.toList → wildcardMatches pattern host = true →
        wildcardMatches (pattern ++ "*") (host ++ s) = true) ↔ IsAbsorbed s.toList) ∧
      ∀ host : String,
        (wildcardMatches "*" host = true ↔ IsAbsorbed host.toList) ∧
        (∀ port, (KnownHosts.Hosts.patterns ["*"]).include (hostIdentity host port) = true ↔
          port ≠ 22 ∨ IsAbsorbed host.toList) ∧
        (∀ directives, (ClientConfig.Section.mk (some ["*"]) directives).appliesTo host = true ↔
          IsAbsorbed host.toList) ∧
        ∀ patterns, listMatches ("!*" :: patterns) host = true ↔
          ¬ IsAbsorbed host.toList ∧ listMatches patterns host = true := by
  refine ⟨⟨fun h => ?_, fun habsorbed pattern host hhost hmatch => ?_⟩,
    fun host => ⟨?_, ?_, ?_, ?_⟩⟩
  · have hempty : wildcardMatches ("" ++ "*") ("" ++ s) = true := h "" "" (by decide) rfl
    rw [String.empty_append, String.empty_append] at hempty
    exact (wildcardMatches_star_iff s).1 hempty
  · have hstar : (pattern ++ "*").toList = pattern.toList ++ ['*'] := by simp
    have hdivider : Text.IsDivider '*' := by decide
    rw [wildcardMatches, Text.lower_eq_self hhost] at hmatch
    rw [wildcardMatches, hstar, hdivider.lower_append_cons, Text.lower_nil, String.toList_append,
      Text.lower_eq_self (hhost.append hs)]
    exact matchesFrom_append_star habsorbed hmatch
  · exact wildcardMatches_star_iff host
  · intro port
    rw [KnownHosts.Hosts.include, listMatches_star, wildcardMatches_star_iff]
    by_cases hport : port = 22
    · simp [hport, hostIdentity_ssh]
    · simp [hport, hostIdentity_of_ne, IsAbsorbed, toList_recorded]
  · intro directives
    change listMatches ["*"] host = true ↔ _
    rw [listMatches_star, wildcardMatches_star_iff]
  · intro patterns
    rw [listMatches_not_star, ← wildcardMatches_star_iff]
    split <;> simp_all

/-- A star in the host is no matter unless it comes where the star of the pattern does. -/
theorem trailing_star_absorbs_inner_stars :
    Text.IsSettled "-*?.lab".toList ∧
      wildcardMatches ("*k?m" ++ "*") ("k*kvm" ++ "-*?.lab") = true := by
  have hs : Text.IsSettled "-*?.lab".toList := Text.isSettled_of_ascii (by simp)
  have hhost : Text.IsSettled "k*kvm".toList := Text.isSettled_of_ascii (by simp)
  have hmatch : wildcardMatches "*k?m" "k*kvm" = true := by cbv
  exact ⟨hs, (trailing_star_absorbs_iff hs).1.2 (by decide) _ _ hhost hmatch⟩

/-- A host that starts with a star and goes on is not taken in: a key that is revoked for all hosts
is not known to be revoked for it. -/
theorem trailing_star_misses_leading_star :
    Text.IsSettled "*a".toList ∧ wildcardMatches "" "" = true ∧
      wildcardMatches ("" ++ "*") ("" ++ "*a") = false ∧
      KnownHosts.check ⟨"known_hosts", [⟨.revoked, .patterns ["*"], ⟨"ssh-ed25519", []⟩⟩]⟩
        "*a" 22 ⟨"ssh-ed25519", []⟩ = .unknown := by
  refine ⟨by decide, rfl, by decide +kernel, by decide +kernel⟩

end SshTunnel.Glob
