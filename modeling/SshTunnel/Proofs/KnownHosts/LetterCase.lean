import SshTunnel.Proofs.KnownHosts.Reading
import SshTunnel.Proofs.KnownHosts.Sayings
import SshTunnel.Proofs.Text.SameLetters

/-!
# Known hosts and letter case

Patterns are compared without regard to letter case, digests are those of an identity as it is
spelled. So entries with patterns say the same of all spellings of a host, and hashed entries need
not: a check of two spellings comes to the same exactly if the hashed entries say the same of both,
or nothing that outweighs the patterns.
-/

namespace SshTunnel

namespace Glob

theorem wildcardMatches_of_sameLetters {host host' : String}
    (h : Text.SameLetters host.toList host'.toList) (pattern : String) :
    wildcardMatches pattern host = wildcardMatches pattern host' := by
  rw [wildcardMatches, wildcardMatches, Text.lower_eq_of_sameLetters h]

theorem listMatches_of_sameLetters {host host' : String}
    (h : Text.SameLetters host.toList host'.toList) (patterns : List String) :
    listMatches patterns host = listMatches patterns host' := by
  rw [Bool.eq_iff_iff, listMatches_eq_true_iff, listMatches_eq_true_iff, Matches, Matches]
  simp only [wildcardMatches_of_sameLetters h]

theorem advance_self (s : List Char) : advance s s = .hostEnd [] := by
  induction s with
  | nil => rfl
  | cons c s ih => simp [advance, ih]

/-- Every text matches itself as a pattern. -/
theorem wildcardMatches_self (s : String) : wildcardMatches s s = true := by
  rw [wildcardMatches, matchesFrom, advance_self]
  rfl

end Glob

theorem hostIdentity_sameLetters {host host' : String}
    (h : Text.SameLetters host.toList host'.toList) (port : UInt16) :
    Text.SameLetters (hostIdentity host port).toList (hostIdentity host' port).toList := by
  rw [hostIdentity, hostIdentity]
  split
  · exact h
  · simp only [String.toList_append]
    have hbracket := (Text.SameLetters.refl (toString "[").toList).append h
    exact (hbracket.append (.refl _)).append (.refl _)

namespace KnownHosts

def Hosts.isHashed : Hosts → Bool
  | patterns _ => false
  | hashed _ _ => true

def listed (store : KnownHosts) : KnownHosts :=
  { store with entries := store.entries.filter fun e => e.hosts.isHashed = false }

def digested (store : KnownHosts) : KnownHosts :=
  { store with entries := store.entries.filter fun e => e.hosts.isHashed = true }

/-- A check is the stronger of what the entries with patterns say and what the hashed ones do. -/
theorem check_eq_listed_sup_digested (store : KnownHosts) (host : String) (port : UInt16)
    (key : PublicKey) :
    store.check host port key =
      store.listed.check host port key ⊔ store.digested.check host port key := by
  rw [check_eq_sup, check_eq_sup, check_eq_sup, listed, digested, ← Finset.sup_union]
  congr 1
  ext e
  simp only [List.mem_toFinset, Finset.mem_union, List.mem_filter, decide_eq_true_eq]
  cases e.hosts.isHashed <;> simp

theorem saying_of_sameLetters {identity identity' : String}
    (h : Text.SameLetters identity.toList identity'.toList) {e : Entry}
    (he : e.hosts.isHashed = false) (key : PublicKey) :
    e.saying identity key = e.saying identity' key := by
  cases hh : e.hosts with
  | patterns list =>
      rw [Entry.saying, Entry.saying, hh, Hosts.include, Hosts.include,
        Glob.listMatches_of_sameLetters h]
  | hashed salt digest => simp [hh, Hosts.isHashed] at he

/-- Entries with patterns say the same of all spellings of a host. -/
theorem check_listed_of_sameLetters (store : KnownHosts) {host host' : String}
    (h : Text.SameLetters host.toList host'.toList) (port : UInt16) (key : PublicKey) :
    store.listed.check host port key = store.listed.check host' port key := by
  rw [check_eq_sup, check_eq_sup]
  refine Finset.sup_congr rfl ?_
  intro e he
  have hlisted : e.hosts.isHashed = false := by
    simpa using (List.mem_filter.1 (List.mem_toFinset.1 he)).2
  exact saying_of_sameLetters (hostIdentity_sameLetters h port) hlisted key

theorem sup_eq_sup_iff_eq_or_le {α : Type} [LinearOrder α] {a b c : α} :
    a ⊔ b = a ⊔ c ↔ b = c ∨ (b ≤ a ∧ c ≤ a) := by
  rw [sup_eq_sup_iff_left, le_sup_iff, le_sup_iff]
  constructor
  · rintro ⟨hb | hb, hc | hc⟩
    · exact Or.inr ⟨hb, hc⟩
    · exact Or.inr ⟨hb, hc.trans hb⟩
    · exact Or.inr ⟨hb.trans hc, hc⟩
    · exact Or.inl (le_antisymm hb hc)
  · rintro (rfl | ⟨hb, hc⟩)
    · exact ⟨Or.inr le_rfl, Or.inr le_rfl⟩
    · exact ⟨Or.inl hb, Or.inl hc⟩

/-- Two spellings of a host are checked alike iff the hashed entries say the same of both, or
nothing of either that outweighs the entries with patterns, which say the same of both anyway. A
host that is spelled as it was recorded is found alike under its digest and under its name. -/
theorem check_eq_check_iff_of_sameLetters (store : KnownHosts) {host host' : String}
    (h : Text.SameLetters host.toList host'.toList) (port : UInt16) (key : PublicKey) :
    store.listed.check host port key = store.listed.check host' port key ∧
      (store.check host port key = store.check host' port key ↔
        store.digested.check host port key = store.digested.check host' port key ∨
          (store.digested.check host port key ≤ store.listed.check host port key ∧
            store.digested.check host' port key ≤ store.listed.check host port key)) ∧
      ∀ (identity : String) (salt : Bytes), ¬ Glob.IsNegated identity →
        (Hosts.hashed salt (Digest.hmacSha1 salt (Text.Utf8.ofString identity))).include identity =
          (Hosts.patterns [identity]).include identity := by
  have hlisted := check_listed_of_sameLetters store h port key
  refine ⟨hlisted, ?_, ?_⟩
  · rw [check_eq_listed_sup_digested, check_eq_listed_sup_digested store host', ← hlisted]
    exact sup_eq_sup_iff_eq_or_le
  · intro identity salt hplain
    have hmatches : Glob.Matches [identity] identity := by
      simp [Glob.Matches, hplain, Glob.wildcardMatches_self]
    have hpattern : (Hosts.patterns [identity]).Applies identity := hmatches
    have hdigest : (Hosts.hashed salt
        (Digest.hmacSha1 salt (Text.Utf8.ofString identity))).Applies identity := rfl
    rw [(Hosts.include_eq_true_iff _ identity).2 hdigest,
      (Hosts.include_eq_true_iff _ identity).2 hpattern]

/-- A host that is listed by a pattern is checked alike in capitals. -/
theorem check_eq_check_of_capitals :
    Text.SameLetters "web.lab".toList "WEB.Lab".toList ∧
      check ⟨"known_hosts", [⟨.plain, .patterns ["*.lab", "!db.lab"], ⟨"ssh-ed25519", []⟩⟩]⟩
          "web.lab" 22 ⟨"ssh-ed25519", []⟩ =
        check ⟨"known_hosts", [⟨.plain, .patterns ["*.lab", "!db.lab"], ⟨"ssh-ed25519", []⟩⟩]⟩
          "WEB.Lab" 22 ⟨"ssh-ed25519", []⟩ := by
  have hsame : Text.SameLetters "web.lab".toList "WEB.Lab".toList := by decide
  refine ⟨hsame, ?_⟩
  exact (check_eq_check_iff_of_sameLetters _ hsame 22 _).2.1.2 (Or.inl (by decide +kernel))

def revokedKey : PublicKey :=
  ⟨"ssh-ed25519", [[242, 92, 66, 127, 165, 102, 173, 209, 191, 230, 175, 5, 15, 75, 250, 129, 192,
    241, 76, 231, 203, 56, 0, 107, 73, 184, 81, 203, 215, 2, 45, 145]]⟩

/-- Known hosts that list the key of a host by its name, and revoke it by the digest of the name. -/
def revokedByDigest : String :=
  "@revoked |1|MDEyMzQ1Njc4OWFiY2RlZmdoaWo=|JvnEDBExiNf/foHk4SbO8q1Yf6o= " ++
    "ssh-ed25519 AAAAC3NzaC1lZDI1NTE5AAAAIPJcQn+lZq3Rv+avBQ9L+oHA8UznyzgAa0m4UcvXAi2R\n" ++
    "kvm1 " ++
    "ssh-ed25519 AAAAC3NzaC1lZDI1NTE5AAAAIPJcQn+lZq3Rv+avBQ9L+oHA8UznyzgAa0m4UcvXAi2R\n"

/-- Spelled with capitals, a host passes by the digest that revokes its key. -/
theorem revoked_digest_misses_capitals :
    Text.SameLetters "kvm1".toList "KVM1".toList ∧
      (readEntries revokedByDigest.toList).toOption.map (fun entries =>
          (check ⟨"known_hosts", entries⟩ "kvm1" 22 revokedKey,
            check ⟨"known_hosts", entries⟩ "KVM1" 22 revokedKey)) =
        some (.revoked, .trusted) := by
  constructor
  · decide
  · decide +kernel

end KnownHosts

end SshTunnel
