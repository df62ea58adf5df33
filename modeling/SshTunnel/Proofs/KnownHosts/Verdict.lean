import SshTunnel.Proofs.KnownHosts.Reading
import SshTunnel.Proofs.KnownHosts.Sayings
import SshTunnel.Trust

/-!
# The verdict on a host key

`declared` is the verdict as a law about the set of entries that apply to a host: first the revoked
keys count, then the trusted ones, then whether the host is known at all. `check`, which goes
through the entries once with two flags, comes to the same verdict. Hence neither the order of the
entries, nor that of the patterns in them, nor any certificate authority has a part in it.
-/

namespace SshTunnel.KnownHosts

def applicable (entries : List Entry) (identity : String) : Finset Entry :=
  entries.toFinset.filter fun e => e.hosts.Applies identity

/-- The verdict on a key of a host that the given entries are about. -/
def declared (entries : Finset Entry) (key : PublicKey) : HostKeyStatus :=
  if ∃ e ∈ entries, e.marker = .revoked ∧ e.key = key then .revoked
  else if ∃ e ∈ entries, e.marker = .plain ∧ e.key = key then .trusted
  else if ∃ e ∈ entries, e.marker = .plain then .mismatch
  else .unknown

theorem sup_saying_eq (entries : List Entry) (identity : String) (key : PublicKey) :
    entries.toFinset.sup (Entry.saying identity key) =
      (applicable entries identity).sup fun e => e.judgement key := by
  apply le_antisymm
  · refine Finset.sup_le ?_
    intro e he
    by_cases hin : e.hosts.include identity = true
    · have happ : e ∈ applicable entries identity :=
        Finset.mem_filter.2 ⟨he, (e.hosts.include_eq_true_iff identity).1 hin⟩
      rw [Entry.saying_of_include key hin]
      exact Finset.le_sup (f := fun e => Entry.judgement e key) happ
    · rw [Entry.saying_of_not_include key (by simpa using hin)]
      exact bot_le
  · refine Finset.sup_le ?_
    intro e he
    obtain ⟨hmem, happ⟩ := Finset.mem_filter.1 he
    rw [← Entry.saying_of_include key ((e.hosts.include_eq_true_iff identity).2 happ)]
    exact Finset.le_sup hmem

theorem judgement_le_sup {entries : Finset Entry} {e : Entry} (he : e ∈ entries)
    (key : PublicKey) : e.judgement key ≤ entries.sup fun e => e.judgement key :=
  Finset.le_sup (f := fun e => Entry.judgement e key) he

theorem judgement_le_declared {entries : Finset Entry} {e : Entry} (he : e ∈ entries)
    (key : PublicKey) : e.judgement key ≤ declared entries key := by
  rw [declared]
  cases hm : e.marker with
  | plain =>
      by_cases hk : e.key = key
      · have htrusted : ∃ e ∈ entries, e.marker = .plain ∧ e.key = key := ⟨e, he, hm, hk⟩
        have hj : e.judgement key = .trusted := by simp [Entry.judgement, hm, hk]
        rw [hj, if_pos htrusted]
        split <;> decide
      · have hplain : ∃ e ∈ entries, e.marker = .plain := ⟨e, he, hm⟩
        have hj : e.judgement key = .mismatch := by simp [Entry.judgement, hm, hk]
        rw [hj, if_pos hplain]
        split
        · decide
        · split <;> decide
  | revoked =>
      by_cases hk : e.key = key
      · have hrevoked : ∃ e ∈ entries, e.marker = .revoked ∧ e.key = key := ⟨e, he, hm, hk⟩
        have hj : e.judgement key = .revoked := by simp [Entry.judgement, hm, hk]
        rw [hj, if_pos hrevoked]
      · have hj : e.judgement key = ⊥ := by
          simp [Entry.judgement, hm, hk, HostKeyStatus.bot_eq_unknown]
        rw [hj]
        exact bot_le
  | certAuthority =>
      have hj : e.judgement key = ⊥ := by
        simp [Entry.judgement, hm, HostKeyStatus.bot_eq_unknown]
      rw [hj]
      exact bot_le

theorem declared_le_sup (entries : Finset Entry) (key : PublicKey) :
    declared entries key ≤ entries.sup fun e => e.judgement key := by
  rw [declared]
  split
  · next h =>
      obtain ⟨e, he, hm, hk⟩ := h
      have hj : e.judgement key = .revoked := by simp [Entry.judgement, hm, hk]
      rw [← hj]
      exact judgement_le_sup he key
  · split
    · next h =>
        obtain ⟨e, he, hm, hk⟩ := h
        have hj : e.judgement key = .trusted := by simp [Entry.judgement, hm, hk]
        rw [← hj]
        exact judgement_le_sup he key
    · split
      · next htrusted h =>
          obtain ⟨e, he, hm⟩ := h
          have hk : e.key ≠ key := fun hk => htrusted ⟨e, he, hm, hk⟩
          have hj : e.judgement key = .mismatch := by simp [Entry.judgement, hm, hk]
          rw [← hj]
          exact judgement_le_sup he key
      · exact bot_le

theorem sup_judgement_eq_declared (entries : Finset Entry) (key : PublicKey) :
    (entries.sup fun e => e.judgement key) = declared entries key :=
  le_antisymm (Finset.sup_le fun _ he => judgement_le_declared he key) (declared_le_sup entries key)

/-! ## What has no part in the verdict -/

theorem check_withoutAuthorities (store : KnownHosts) (host : String) (port : UInt16)
    (key : PublicKey) :
    check { store with entries := withoutAuthorities store.entries } host port key =
      store.check host port key := by
  rw [check_eq_sup, check_eq_sup]
  apply le_antisymm
  · refine Finset.sup_le ?_
    intro e he
    obtain ⟨hmem, -⟩ := List.mem_filter.1 (List.mem_toFinset.1 he)
    exact Finset.le_sup (List.mem_toFinset.2 hmem)
  · refine Finset.sup_le ?_
    intro e he
    by_cases hm : e.marker = .certAuthority
    · have hbot : e.saying (hostIdentity host port) key = ⊥ := by
        simp [Entry.saying, Entry.judgement, hm, HostKeyStatus.bot_eq_unknown]
      rw [hbot]
      exact bot_le
    · have hmem : e ∈ withoutAuthorities store.entries :=
        List.mem_filter.2 ⟨List.mem_toFinset.1 he, by simpa using hm⟩
      exact Finset.le_sup (List.mem_toFinset.2 hmem)

theorem check_of_perm {store store' : KnownHosts} (hp : store.entries.Perm store'.entries)
    (host : String) (port : UInt16) (key : PublicKey) :
    store.check host port key = store'.check host port key := by
  rw [check_eq_sup, check_eq_sup, List.toFinset_eq_of_perm _ _ hp]

theorem check_of_withoutAuthorities_perm {store store' : KnownHosts}
    (hp : (withoutAuthorities store.entries).Perm (withoutAuthorities store'.entries))
    (host : String) (port : UInt16) (key : PublicKey) :
    store.check host port key = store'.check host port key := by
  rw [← check_withoutAuthorities store, ← check_withoutAuthorities store']
  exact check_of_perm hp host port key

/-- An entry whose patterns, if it has any, stand in another order. -/
inductive Entry.SamePatterns : Entry → Entry → Prop
  | refl (e : Entry) : SamePatterns e e
  | patterns (e : Entry) {list list' : List String} (hosts : e.hosts = .patterns list)
      (perm : list.Perm list') : SamePatterns e { e with hosts := .patterns list' }

theorem Entry.SamePatterns.saying_eq {e e' : Entry} (h : SamePatterns e e') (identity : String)
    (key : PublicKey) : e.saying identity key = e'.saying identity key := by
  cases h with
  | refl => rfl
  | patterns hosts perm =>
      simp only [Entry.saying, hosts, Hosts.include, Glob.listMatches_perm perm identity]
      rfl

theorem sup_saying_of_samePatterns {entries entries' : List Entry}
    (h : List.Forall₂ Entry.SamePatterns entries entries') (identity : String) (key : PublicKey) :
    entries.toFinset.sup (Entry.saying identity key) =
      entries'.toFinset.sup (Entry.saying identity key) := by
  induction h with
  | nil => rfl
  | cons he _ ih =>
      rw [List.toFinset_cons, List.toFinset_cons, Finset.sup_insert, Finset.sup_insert, ih,
        he.saying_eq]

/-- Entries whose patterns stand in another order are checked alike. -/
theorem check_of_samePatterns {store store' : KnownHosts}
    (h : List.Forall₂ Entry.SamePatterns store.entries store'.entries) (host : String)
    (port : UInt16) (key : PublicKey) :
    store.check host port key = store'.check host port key := by
  rw [check_eq_sup, check_eq_sup, sup_saying_of_samePatterns h]

/-! ## The law -/

/-- A check comes to the declared verdict, and a policy that verifies accepts the trusted keys and
no others. Stores check alike if, certificate authorities aside, they hold the same entries in any
order, or if they differ in the order of patterns. A text in which lines change places, and lines
of authorities come or go, loads as well as before, and is checked alike. -/
theorem check_eq_declared (store : KnownHosts) (host : String) (port : UInt16) (key : PublicKey) :
    store.check host port key =
        declared (applicable store.entries (hostIdentity host port)) key ∧
      ((TrustPolicy.verify store).accepts host port key = true ↔
        declared (applicable store.entries (hostIdentity host port)) key = .trusted) ∧
      (∀ store' : KnownHosts,
        (withoutAuthorities store.entries).Perm (withoutAuthorities store'.entries) →
          store'.check host port key = store.check host port key) ∧
      (∀ store' : KnownHosts,
        List.Forall₂ Entry.SamePatterns store.entries store'.entries →
          store'.check host port key = store.check host port key) ∧
      ∀ text text' : List Char, readEntries text = .ok store.entries → SameLines text text' →
        (∀ line ∈ Text.lines text', IsAuthorityLine line → IsSound line) →
          ∃ store' : KnownHosts, readEntries text' = .ok store'.entries ∧
            store'.check host port key = store.check host port key := by
  have hcheck : store.check host port key =
      declared (applicable store.entries (hostIdentity host port)) key := by
    rw [check_eq_sup, sup_saying_eq, sup_judgement_eq_declared]
  refine ⟨hcheck, ?_, ?_, ?_, ?_⟩
  · rw [← hcheck]
    simp [TrustPolicy.accepts]
  · intro store' hp
    exact (check_of_withoutAuthorities_perm hp host port key).symm
  · intro store' h
    exact (check_of_samePatterns h host port key).symm
  · intro text text' hload hsame hsound
    obtain ⟨entries', hload', hp⟩ := readEntries_of_sameLines hload hsame hsound
    refine ⟨⟨store.path, entries'⟩, hload', ?_⟩
    exact (check_of_withoutAuthorities_perm hp host port key).symm

/-- Known hosts that list a key and then revoke it. -/
def revokedLast : String :=
  "h1,!h2 ssh-rsa AAAAB3NzaC1yc2EAAAABAwAAAAEF\n" ++
    "@revoked h* ssh-rsa AAAAB3NzaC1yc2EAAAABAwAAAAEF\n"

/-- Known hosts that revoke a key, name it as that of an authority, and list it. -/
def revokedFirst : String :=
  "@revoked h* ssh-rsa AAAAB3NzaC1yc2EAAAABAwAAAAEF\n" ++
    "@cert-authority * ssh-rsa AAAAB3NzaC1yc2EAAAABAwAAAAEF\n" ++
    "h1,!h2 ssh-rsa AAAAB3NzaC1yc2EAAAABAwAAAAEF\n"

/-- Both texts load, and the host is checked alike. -/
theorem check_of_moved_lines :
    ∃ store store' : KnownHosts, readEntries revokedLast.toList = .ok store.entries ∧
      readEntries revokedFirst.toList = .ok store'.entries ∧
      store'.check "h1" 22 ⟨"ssh-rsa", [[3], [5]]⟩ =
        store.check "h1" 22 ⟨"ssh-rsa", [[3], [5]]⟩ := by
  have hsound : ∀ line ∈ Text.lines revokedLast.toList, IsSound line := by decide +kernel
  obtain ⟨entries, hload⟩ : ∃ entries, readEntries revokedLast.toList = .ok entries :=
    ⟨_, readEntries_eq_ok_iff.2 ⟨hsound, rfl⟩⟩
  have hsame : SameLines revokedLast.toList revokedFirst.toList := by decide +kernel
  have hsound' : ∀ line ∈ Text.lines revokedFirst.toList, IsAuthorityLine line → IsSound line := by
    decide +kernel
  obtain ⟨-, -, -, -, hmoved⟩ :=
    check_eq_declared ⟨"known_hosts", entries⟩ "h1" 22 ⟨"ssh-rsa", [[3], [5]]⟩
  obtain ⟨store', hload', hcheck⟩ := hmoved _ _ hload hsame hsound'
  exact ⟨_, store', hload, hload', hcheck⟩

end SshTunnel.KnownHosts
