import SshTunnel.Proofs.Address.Reading

/-!
# URIs with and without a scheme

What a URI says follows its scheme. A text without `://` is read as if a scheme preceded it, and of
a scheme the name does not matter (`SameReading`). The host, the port, the user and the password
precede the path and the query, and neither of these has a bearing on them (`SameTarget`).
-/

namespace SshTunnel.Descriptor

/-- Both URIs are refused, or both are read into the same descriptor. -/
def SameReading (uri uri' : String) : Prop :=
  (∃ e e', parse uri = .error e ∧ parse uri' = .error e') ∨
    ∃ d, parse uri = .ok d ∧ parse uri' = .ok d

def SameTarget (d d' : Descriptor) : Prop :=
  d.host = d'.host ∧ d.port = d'.port ∧ d.user = d'.user ∧ d.password = d'.password

/-- What can precede the path and the query of a URI. -/
structure IsAuthority (a : List Char) : Prop where
  slash_not_mem : '/' ∉ a
  question_not_mem : '?' ∉ a
  head_unblank : ∀ c, a.head? = some c → Text.isBlank c = false

/-- A path or a query, both of them, or nothing. -/
def IsTail (t : List Char) : Prop :=
  ∀ c, t.head? = some c → c = '/' ∨ c = '?'

variable {uri uri' : String} {a t : List Char} {d d' : Descriptor}

/-! ## What follows the scheme -/

theorem sameReading_of_ok_iff (h : ∀ d, parse uri = .ok d ↔ parse uri' = .ok d) :
    SameReading uri uri' := by
  cases huri : parse uri with
  | ok d => exact .inr ⟨d, huri, (h d).1 huri⟩
  | error e =>
      cases huri' : parse uri' with
      | ok d => exact absurd ((h d).2 huri') (by simp [huri])
      | error e' => exact .inl ⟨e, e', huri, huri'⟩

/-- A URI is read by what follows its scheme; the rest is for the message if it lacks a host. -/
theorem sameReading_of_afterScheme
    (h : afterScheme (Text.trim uri.toList) = afterScheme (Text.trim uri'.toList)) :
    SameReading uri uri' := by
  refine sameReading_of_ok_iff fun d => ?_
  simp only [parse_eq_ok_iff, readAuthority_eq_ok_iff, h]

theorem IsTail.head_unblank (ht : IsTail t) : ∀ c, t.head? = some c → Text.isBlank c = false := by
  intro c hc
  rcases ht c hc with rfl | rfl
  · decide
  · decide

theorem IsAuthority.trimStart_append (ha : IsAuthority a) (ht : IsTail t) :
    Text.trimStart (a ++ t) = a ++ t := by
  apply Text.trimStart_eq_self
  cases a with
  | nil => exact ht.head_unblank
  | cons c a => exact ha.head_unblank

theorem IsAuthority.afterScheme_trim (ha : IsAuthority a) (ht : IsTail t)
    (h : ¬ [':', '/', '/'] <:+: a ++ t) :
    afterScheme (Text.trim (a ++ t)) = Text.trimEnd (a ++ t) := by
  rw [afterScheme_trim_eq_trim h, Text.trim, ha.trimStart_append ht]

/-! ## What precedes path and query -/

theorem exists_trimEnd_append (ht : IsTail t)
    (ha : ∀ c, a.getLast? = some c → Text.isBlank c = false) :
    ∃ t', IsTail t' ∧ Text.trimEnd (a ++ t) = a ++ t' := by
  cases t with
  | nil =>
      refine ⟨[], ht, ?_⟩
      rw [List.append_nil, Text.trimEnd_eq_self_of_getLast? ha]
  | cons c t =>
      exact ⟨c :: Text.trimEnd t, ht, Text.trimEnd_append_cons a t (ht.head_unblank c rfl)⟩

theorem IsAuthority.takeWhile_append (ha : IsAuthority a) (ht : IsTail t) :
    ((a ++ t).takeWhile (· ≠ '?')).takeWhile (· ≠ '/') = a := by
  rw [Text.takeWhile_ne_append _ ha.question_not_mem, Text.takeWhile_ne_append _ ha.slash_not_mem]
  cases t with
  | nil => simp
  | cons c t =>
      rcases ht c rfl with rfl | rfl
      · simp
      · simp

/-- What a URI with a scheme says up to the path is read from its authority alone. -/
theorem IsAuthority.exists_target (ha : IsAuthority a) (ht : IsTail t)
    (hlast : ∀ c, a.getLast? = some c → Text.isBlank c = false)
    (huri : uri.toList = "ssh".toList ++ ':' :: '/' :: '/' :: (a ++ t)) (h : parse uri = .ok d) :
    ∃ user password host port,
      readUserinfo (splitUserinfo a).1 = .ok (user, password) ∧
      splitHostPort (splitUserinfo a).2 = .ok (host, port) ∧
      d = { host := String.ofList host, port := port.map String.ofList, user, password,
            params := d.params } := by
  obtain ⟨t', ht', htrim⟩ := exists_trimEnd_append ht hlast
  have hafter : afterScheme (Text.trim uri.toList) = a ++ t' := by
    rw [huri, Descriptor.afterScheme_trim _ (by decide), htrim]
  obtain ⟨d₀, hd₀, hitems⟩ := parse_eq_ok_iff.1 h
  rw [hafter, Text.splitOptional_fst] at hd₀
  obtain ⟨user, password, host, port, hinfo, hhost, -, rfl⟩ := readAuthority_eq_ok_iff.1 hd₀
  rw [ha.takeWhile_append ht'] at hinfo hhost
  exact ⟨user, password, host, port, hinfo, hhost, addItems_eq hitems⟩

theorem IsAuthority.sameTarget {t' : List Char} (ha : IsAuthority a) (ht : IsTail t)
    (ht' : IsTail t') (hlast : ∀ c, a.getLast? = some c → Text.isBlank c = false)
    (huri : uri.toList = "ssh".toList ++ ':' :: '/' :: '/' :: (a ++ t))
    (huri' : uri'.toList = "ssh".toList ++ ':' :: '/' :: '/' :: (a ++ t'))
    (h : parse uri = .ok d) (h' : parse uri' = .ok d') : SameTarget d d' := by
  obtain ⟨user, password, host, port, hinfo, hhost, hd⟩ := ha.exists_target ht hlast huri h
  obtain ⟨user', password', host', port', hinfo', hhost', hd'⟩ :=
    ha.exists_target ht' hlast huri' h'
  rw [hinfo] at hinfo'
  rw [hhost] at hhost'
  obtain ⟨rfl, rfl⟩ := Prod.mk.inj (Except.ok.inj hinfo')
  obtain ⟨rfl, rfl⟩ := Prod.mk.inj (Except.ok.inj hhost')
  rw [hd, hd']
  exact ⟨rfl, rfl, rfl, rfl⟩

/-! ## The scheme can be left out -/

/-- A text in which no `://` occurs is read as it is with a scheme. One with a scheme of its own is
read as it is with another. With a scheme, neither the path nor the query changes the target. -/
theorem scheme_is_optional {a t : String} (ha : IsAuthority a.toList) (ht : IsTail t.toList) :
    (¬ "://".toList <:+: (a ++ t).toList → SameReading (a ++ t) ("ssh://" ++ a ++ t)) ∧
      (∀ s r, a = s ++ ":" → t = "//" ++ r → SameReading (a ++ t) ("ssh://" ++ r)) ∧
      ((∀ c, a.toList.getLast? = some c → Text.isBlank c = false) →
        ∀ t' d d', IsTail t'.toList → parse ("ssh://" ++ a ++ t) = .ok d →
          parse ("ssh://" ++ a ++ t') = .ok d' → SameTarget d d') := by
  have hlist (t : String) : ("ssh://" ++ a ++ t).toList =
      "ssh".toList ++ ':' :: '/' :: '/' :: (a.toList ++ t.toList) := by simp
  refine ⟨fun hnone => ?_, ?_, fun hlast t' d d' ht' h h' => ?_⟩
  · apply sameReading_of_afterScheme
    rw [String.toList_append] at hnone ⊢
    rw [ha.afterScheme_trim ht hnone, hlist, Descriptor.afterScheme_trim _ (by decide)]
  · rintro s r rfl rfl
    have hslash : '/' ∉ s.toList := fun hmem => ha.slash_not_mem (by simp [hmem])
    have hnone : ¬ [':', '/', '/'] <:+: s.toList := fun hwithin =>
      hslash (hwithin.subset (by simp))
    have hown : (s ++ ":" ++ ("//" ++ r)).toList = s.toList ++ ':' :: '/' :: '/' :: r.toList := by
      simp
    have hother : ("ssh://" ++ r).toList = "ssh".toList ++ ':' :: '/' :: '/' :: r.toList := by simp
    apply sameReading_of_afterScheme
    rw [hown, hother, afterScheme_trim_of_not_infix _ hnone,
      Descriptor.afterScheme_trim _ (by decide)]
  · exact ha.sameTarget ht ht' hlast (hlist t) (hlist t') h h'

/-- An at sign in the password, colons in the host and an encoded `://` in a parameter are no
scheme. After a scheme even a plain `://` in a parameter leaves the target as it is. -/
theorem scheme_is_optional_before_encoded_mark :
    SameReading ("bob:p@w@[fe80::1]:2222" ++ "/system?socket=unix:%2F%2Frun")
        ("ssh://" ++ "bob:p@w@[fe80::1]:2222" ++ "/system?socket=unix:%2F%2Frun") ∧
      SameReading ("qemu+ssh:" ++ "//kvm1/system") ("ssh://" ++ "kvm1/system") ∧
      ∃ d d', parse ("ssh://" ++ "bob@kvm1" ++ "?socket=unix://run") = .ok d ∧
        parse ("ssh://" ++ "bob@kvm1" ++ "") = .ok d' ∧ SameTarget d d' := by
  have hauthority : IsAuthority "bob:p@w@[fe80::1]:2222".toList :=
    ⟨by decide +kernel, by decide +kernel, by simp [Text.isBlank]⟩
  have hscheme : IsAuthority "qemu+ssh:".toList :=
    ⟨by decide +kernel, by decide +kernel, by simp [Text.isBlank]⟩
  have hplain : IsAuthority "bob@kvm1".toList :=
    ⟨by decide +kernel, by decide +kernel, by simp [Text.isBlank]⟩
  have hsocket : parse ("ssh://" ++ "bob@kvm1" ++ "?socket=unix://run") =
      .ok { host := "kvm1", user := some "bob", params := [("socket", "unix://run")] } :=
    toOption_eq_some_iff.1 (by decide +kernel)
  have hnothing : parse ("ssh://" ++ "bob@kvm1" ++ "") =
      .ok { host := "kvm1", user := some "bob" } :=
    toOption_eq_some_iff.1 (by decide +kernel)
  refine ⟨?_, ?_, _, _, hsocket, hnothing, ?_⟩
  · exact (scheme_is_optional hauthority (by simp [IsTail])).1 (by decide +kernel)
  · exact (scheme_is_optional hscheme (by simp [IsTail])).2.1 "qemu+ssh" "kvm1/system"
      (by decide +kernel) (by decide +kernel)
  · exact (scheme_is_optional hplain (by simp [IsTail])).2.2 (by simp [Text.isBlank]) _ _ _
      (by simp [IsTail]) hsocket hnothing

/-- A text that has a scheme is not read as it is with one more in front of it. -/
theorem not_sameReading_of_own_scheme :
    IsAuthority "qemu+ssh:".toList ∧ IsTail "//kvm1/system".toList ∧
      ¬ SameReading ("qemu+ssh:" ++ "//kvm1/system")
        ("ssh://" ++ "qemu+ssh:" ++ "//kvm1/system") := by
  have hown : parse ("qemu+ssh:" ++ "//kvm1/system") = .ok { host := "kvm1" } :=
    toOption_eq_some_iff.1 (by decide +kernel)
  have hmore : parse ("ssh://" ++ "qemu+ssh:" ++ "//kvm1/system") =
      .ok { host := "qemu+ssh", port := some "" } := toOption_eq_some_iff.1 (by decide +kernel)
  refine ⟨⟨by decide +kernel, by decide +kernel, by simp [Text.isBlank]⟩, by simp [IsTail], ?_⟩
  rintro (⟨e, -, he, -⟩ | ⟨d, hd, hd'⟩)
  · cases hown.symm.trans he
  · rw [← Except.ok.inj (hown.symm.trans hd)] at hd'
    have hhost := congrArg Descriptor.host (Except.ok.inj (hmore.symm.trans hd'))
    exact absurd hhost (by decide +kernel)

end SshTunnel.Descriptor
