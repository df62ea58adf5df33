import SshTunnel.Descriptor.Uri
import SshTunnel.Proofs.Text.Cuts
import SshTunnel.Proxy.Address

/-!
# How a host and a port are written

`Names s host port` is the form in which a host and the text of its port stand in an address. A
proxy's address is read by just this form (`ProxyAddress.splitHost_eq_ok_iff`). A descriptor is
read by it too, and besides it takes a host in brackets that something else than a port follows
(`Descriptor.splitHostPort_eq_ok_iff`).
-/

namespace SshTunnel

namespace HostText

/-- The text names a host, and a port if a colon announces one. A host in brackets ends at the
first closing one; without them the last colon announces the port. -/
inductive Names : List Char → List Char → Option (List Char) → Prop
  | bracketed {host : List Char} (hhost : ']' ∉ host) :
      Names ('[' :: (host ++ [']'])) host none
  | bracketedPort {host port : List Char} (hhost : ']' ∉ host) :
      Names ('[' :: (host ++ ']' :: ':' :: port)) host (some port)
  | plain {host : List Char} (hhead : host.head? ≠ some '[') (hhost : ':' ∉ host) :
      Names host host none
  | plainPort {host port : List Char} (hhead : host.head? ≠ some '[') (hport : ':' ∉ port) :
      Names (host ++ ':' :: port) host (some port)

/-- Something that is no port follows the brackets around a host. -/
inductive Trails : List Char → List Char → Prop
  | intro {host after : List Char} {c : Char} (hhost : ']' ∉ host) (hc : c ≠ ':') :
      Trails ('[' :: (host ++ ']' :: c :: after)) host

def atLastColon (s : List Char) : List Char × Option (List Char) :=
  match Text.splitLast (· = ':') s with
  | some (host, port) => (host, some port)
  | none => (s, none)

variable {s a after host : List Char} {port : Option (List Char)}

theorem Names.host_head_or (h : Names s host port) : host.head? ≠ some '[' ∨ ']' ∉ host := by
  cases h with
  | bracketed hhost => exact .inr hhost
  | bracketedPort hhost => exact .inr hhost
  | plain hhead => exact .inl hhead
  | plainPort hhead => exact .inl hhead

theorem Names.host_subset (h : Names s host port) : host ⊆ s := by
  intro c hc
  cases h <;> simp [hc]

/-! ## What a text names, by its start -/

theorem head?_append_cons_ne {a b : List Char} {c : Char} (ha : a.head? ≠ some '[')
    (hc : c ≠ '[') : (a ++ c :: b).head? ≠ some '[' := by
  cases a with
  | nil => simpa using hc
  | cons x a => simpa using ha

theorem names_bracket_iff (ha : ']' ∉ a) :
    Names ('[' :: (a ++ ']' :: after)) host port ↔
      a = host ∧ ((after = [] ∧ port = none) ∨ ∃ p, after = ':' :: p ∧ port = some p) := by
  constructor
  · generalize hs : '[' :: (a ++ ']' :: after) = s
    intro h
    cases h with
    | bracketed hhost =>
        obtain ⟨rfl, rfl⟩ := (Text.first_cut_inj ha hhost).1 (List.cons.inj hs).2
        exact ⟨rfl, .inl ⟨rfl, rfl⟩⟩
    | bracketedPort hhost =>
        obtain ⟨rfl, rfl⟩ := (Text.first_cut_inj ha hhost).1 (List.cons.inj hs).2
        exact ⟨rfl, .inr ⟨_, rfl, rfl⟩⟩
    | plain hhead => exact absurd (by rw [← hs]; rfl) hhead
    | plainPort hhead => exact absurd (by rw [← hs]; rfl) (head?_append_cons_ne hhead (by decide))
  · rintro ⟨rfl, ⟨rfl, rfl⟩ | ⟨p, rfl, rfl⟩⟩
    · exact .bracketed ha
    · exact .bracketedPort ha

theorem trails_bracket_iff (ha : ']' ∉ a) :
    Trails ('[' :: (a ++ ']' :: after)) host ↔ a = host ∧ ∃ c t, c ≠ ':' ∧ after = c :: t := by
  constructor
  · generalize hs : '[' :: (a ++ ']' :: after) = s
    intro h
    cases h with
    | intro hhost hc =>
        obtain ⟨rfl, rfl⟩ := (Text.first_cut_inj ha hhost).1 (List.cons.inj hs).2
        exact ⟨rfl, _, _, hc, rfl⟩
  · rintro ⟨rfl, c, t, hc, rfl⟩
    exact .intro ha hc

theorem Trails.not_names {b : List Char} (h : Trails s b) : ¬ Names s host port := by
  cases h with
  | intro hclosed hc =>
      rw [names_bracket_iff hclosed]
      simp [hc]

theorem not_names_of_not_mem (h : ']' ∉ s) :
    ¬ Names ('[' :: s) host port ∧ ¬ Trails ('[' :: s) host := by
  generalize hs : '[' :: s = t
  refine ⟨fun hn => ?_, fun ht => ?_⟩
  · cases hn with
    | bracketed => simp_all
    | bracketedPort => simp_all
    | plain hhead => exact hhead (by rw [← hs]; rfl)
    | plainPort hhead => exact head?_append_cons_ne (c := ':') hhead (by decide) (by rw [← hs]; rfl)
  · cases ht
    simp_all

theorem names_iff_of_head (hs : s.head? ≠ some '[') :
    Names s host port ↔ atLastColon s = (host, port) := by
  constructor
  · intro h
    cases h with
    | bracketed => simp at hs
    | bracketedPort => simp at hs
    | plain hhead hhost => rw [atLastColon, Text.splitLast_eq_none_iff.2 hhost]
    | plainPort hhead hport => rw [atLastColon, Text.splitLast_eq_some_iff.2 ⟨hport, rfl⟩]
  · rw [atLastColon]
    cases hcut : Text.splitLast (· = ':') s with
    | none =>
        rintro ⟨rfl, rfl⟩
        exact .plain hs (Text.splitLast_eq_none_iff.1 hcut)
    | some cut =>
        rintro ⟨rfl, rfl⟩
        obtain ⟨hb, rfl⟩ := Text.splitLast_eq_some_iff.1 hcut
        exact .plainPort (fun ha => hs (by rw [List.head?_append, ha]; rfl)) hb

theorem not_trails_of_head (hs : s.head? ≠ some '[') : ¬ Trails s host := by
  intro h
  cases h
  simp at hs

end HostText

open HostText

/-! ## The reader of descriptors -/

namespace Descriptor

variable {s host : List Char} {port : Option (List Char)}

theorem splitHostPort_of_head (h : s.head? ≠ some '[') :
    splitHostPort s = .ok (atLastColon s) := by
  rw [splitHostPort]
  · rw [atLastColon]
    cases Text.splitLast (· = ':') s <;> rfl
  · rintro rest rfl
    exact h rfl

theorem splitHostPort_eq_ok_iff :
    splitHostPort s = .ok (host, port) ↔ Names s host port ∨ (port = none ∧ Trails s host) := by
  by_cases hs : s.head? = some '['
  · obtain ⟨rest, rfl⟩ := List.head?_eq_some_iff.1 hs
    cases hcut : Text.splitFirst (· = ']') rest with
    | none =>
        have hnot : ¬ Names ('[' :: rest) host port ∧ ¬ Trails ('[' :: rest) host :=
          not_names_of_not_mem (Text.splitFirst_eq_none_iff.1 hcut)
        simp [splitHostPort, hcut, hnot]
    | some cut =>
        obtain ⟨a, after⟩ := cut
        obtain ⟨ha, rfl⟩ := Text.splitFirst_eq_some_iff.1 hcut
        rw [names_bracket_iff ha, trails_bracket_iff ha]
        cases after with
        | nil => simp [splitHostPort, hcut, eq_comm]
        | cons c after =>
            by_cases hc : c = ':'
            · subst hc
              simp [splitHostPort, hcut, eq_comm]
            · simp [splitHostPort, hcut, hc, eq_comm, and_comm]
  · rw [splitHostPort_of_head hs, names_iff_of_head hs, Except.ok.injEq]
    simp [not_trails_of_head hs]

/-- The host that is read is empty iff there is nothing, only a port, or a pair of brackets. -/
theorem exists_splitHostPort_nil_iff :
    (∃ port, splitHostPort s = .ok ([], port)) ↔
      s = [] ∨ (∃ port, ':' ∉ port ∧ s = ':' :: port) ∨ ∃ after, s = '[' :: ']' :: after := by
  simp only [splitHostPort_eq_ok_iff]
  constructor
  · rintro ⟨port, h | ⟨-, h⟩⟩
    · cases h with
      | bracketed => exact .inr (.inr ⟨_, rfl⟩)
      | bracketedPort => exact .inr (.inr ⟨_, rfl⟩)
      | plain => exact .inl rfl
      | plainPort _ hport => exact .inr (.inl ⟨_, hport, rfl⟩)
    · cases h
      exact .inr (.inr ⟨_, rfl⟩)
  · have hempty : ']' ∉ ([] : List Char) := by simp
    rintro (rfl | ⟨port, hport, rfl⟩ | ⟨after, rfl⟩)
    · exact ⟨none, .inl (.plain (by simp) (by simp))⟩
    · have hnames : Names ([] ++ ':' :: port) [] (some port) := .plainPort (by simp) hport
      exact ⟨some port, .inl hnames⟩
    · rcases after with - | ⟨c, after⟩
      · exact ⟨none, .inl ((names_bracket_iff hempty).2 ⟨rfl, .inl ⟨rfl, rfl⟩⟩)⟩
      · by_cases hc : c = ':'
        · subst hc
          exact ⟨some after, .inl ((names_bracket_iff hempty).2 ⟨rfl, .inr ⟨after, rfl, rfl⟩⟩)⟩
        · exact ⟨none, .inr ⟨rfl, (trails_bracket_iff hempty).2 ⟨rfl, c, after, hc, rfl⟩⟩⟩

end Descriptor

/-! ## The reader of proxies' addresses -/

namespace ProxyAddress

variable {s host : List Char} {port : Option (List Char)}

theorem splitHost_of_head (h : s.head? ≠ some '[') :
    splitHost s = .ok (atLastColon s) := by
  rw [splitHost]
  · rw [atLastColon]
    cases Text.splitLast (· = ':') s <;> rfl
  · rintro rest rfl
    exact h rfl

theorem splitHost_eq_ok_iff : splitHost s = .ok (host, port) ↔ Names s host port := by
  by_cases hs : s.head? = some '['
  · obtain ⟨rest, rfl⟩ := List.head?_eq_some_iff.1 hs
    cases hcut : Text.splitFirst (· = ']') rest with
    | none =>
        have hnot : ¬ Names ('[' :: rest) host port ∧ ¬ Trails ('[' :: rest) host :=
          not_names_of_not_mem (Text.splitFirst_eq_none_iff.1 hcut)
        simp [splitHost, hcut, hnot]
    | some cut =>
        obtain ⟨a, after⟩ := cut
        obtain ⟨ha, rfl⟩ := Text.splitFirst_eq_some_iff.1 hcut
        rw [names_bracket_iff ha]
        cases after with
        | nil => simp [splitHost, hcut, eq_comm]
        | cons c after =>
            by_cases hc : c = ':'
            · subst hc
              simp [splitHost, hcut, eq_comm]
            · simp [splitHost, hcut, hc]
  · rw [splitHost_of_head hs, names_iff_of_head hs, Except.ok.injEq]

end ProxyAddress

theorem HostText.Names.unique {s host host' : List Char} {port port' : Option (List Char)}
    (h : Names s host port) (h' : Names s host' port') : host = host' ∧ port = port' := by
  rw [← ProxyAddress.splitHost_eq_ok_iff] at h h'
  exact Prod.mk.inj (Except.ok.inj (h.symm.trans h'))

end SshTunnel
