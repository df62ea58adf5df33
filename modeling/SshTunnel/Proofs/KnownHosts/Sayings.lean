import Mathlib.Data.Finset.Lattice.Fold
import SshTunnel.KnownHosts.Basic
import SshTunnel.Proofs.Glob.Lists

/-!
# What each entry says

`Entry.saying` is the status that an entry by itself gives to the key of a host, `unknown` if it
says nothing of it. Statuses are ordered by how much they outweigh others. A check is the strongest
saying of the entries: it depends on the set of entries alone. `Hosts.Applies` says without a loop
which hosts an entry is about.
-/

namespace SshTunnel

namespace HostKeyStatus

/-- The place of a status among those that outweigh each other. -/
def weight : HostKeyStatus → Nat
  | unknown => 0
  | mismatch => 1
  | trusted => 2
  | revoked => 3

theorem weight_injective : Function.Injective weight := by
  intro a b h
  cases a <;> cases b <;> first | rfl | simp [weight] at h

instance : LinearOrder HostKeyStatus :=
  LinearOrder.lift' weight weight_injective

instance : OrderBot HostKeyStatus where
  bot := unknown
  bot_le _ := Nat.zero_le _

theorem bot_eq_unknown : (⊥ : HostKeyStatus) = unknown := rfl

theorem revoked_sup (s : HostKeyStatus) : revoked ⊔ s = revoked := by
  cases s <;> decide

end HostKeyStatus

namespace KnownHosts

/-- The hosts that an entry is about: those that a list of patterns matches, or the one whose
identity has the digest. -/
def Hosts.Applies (hosts : Hosts) (identity : String) : Prop :=
  match hosts with
  | patterns list => Glob.Matches list identity
  | hashed salt digest => Digest.hmacSha1 salt (Text.Utf8.ofString identity) = digest

instance (hosts : Hosts) (identity : String) : Decidable (hosts.Applies identity) :=
  match hosts with
  | .patterns list => inferInstanceAs (Decidable (Glob.Matches list identity))
  | .hashed _ _ => inferInstanceAs (Decidable (_ = _))

theorem Hosts.include_eq_true_iff (hosts : Hosts) (identity : String) :
    hosts.include identity = true ↔ hosts.Applies identity := by
  cases hosts with
  | patterns list => exact Glob.listMatches_eq_true_iff list identity
  | hashed salt digest => simp [Hosts.include, Hosts.Applies]

def Entry.judgement (e : Entry) (key : PublicKey) : HostKeyStatus :=
  match e.marker with
  | .revoked => if e.key = key then .revoked else .unknown
  | .certAuthority => .unknown
  | .plain => if e.key = key then .trusted else .mismatch

def Entry.saying (identity : String) (key : PublicKey) (e : Entry) : HostKeyStatus :=
  if e.hosts.include identity then e.judgement key else .unknown

theorem Entry.saying_of_not_include {e : Entry} {identity : String} (key : PublicKey)
    (h : e.hosts.include identity = false) : e.saying identity key = ⊥ := by
  simp [saying, h, HostKeyStatus.bot_eq_unknown]

theorem Entry.saying_of_include {e : Entry} {identity : String} (key : PublicKey)
    (h : e.hosts.include identity = true) : e.saying identity key = e.judgement key := by
  simp [saying, h]

/-- What has been found out about a key by some entries: whether the host is known, and whether
with this key. -/
def soFar (known trusted : Bool) : HostKeyStatus :=
  if trusted then .trusted else if known then .mismatch else .unknown

/-- A plain entry moves the two flags just as its judgement asks for. -/
theorem soFar_sup_plain (known trusted same : Bool) :
    soFar known trusted ⊔ (if same then .trusted else .mismatch) =
      soFar true (trusted || same) := by
  cases known <;> cases trusted <;> cases same <;> decide

/-- The status after some entries is the strongest of what they say and of what was found out
before them. -/
theorem verdict_eq_sup (identity : String) (key : PublicKey) (known trusted : Bool)
    (entries : List Entry) :
    verdict identity key known trusted entries =
      soFar known trusted ⊔ entries.toFinset.sup (Entry.saying identity key) := by
  induction entries generalizing known trusted with
  | nil => simp [verdict, soFar]
  | cons e entries ih =>
      rw [List.toFinset_cons, Finset.sup_insert, ← sup_assoc, verdict]
      by_cases hin : e.hosts.include identity = true
      · rw [if_pos hin, Entry.saying_of_include key hin]
        cases hm : e.marker with
        | plain =>
            have hj : e.judgement key = if e.key = key then .trusted else .mismatch := by
              simp [Entry.judgement, hm]
            have hflags := soFar_sup_plain known trusted (e.key = key)
            simp only [decide_eq_true_eq] at hflags
            rw [hj, hflags]
            exact ih true _
        | revoked =>
            by_cases hk : e.key = key
            · have hj : e.judgement key = .revoked := by simp [Entry.judgement, hm, hk]
              rw [hj, sup_comm (soFar known trusted), sup_assoc, HostKeyStatus.revoked_sup]
              simp [hk]
            · have hj : e.judgement key = ⊥ := by
                simp [Entry.judgement, hm, hk, HostKeyStatus.bot_eq_unknown]
              rw [hj, sup_bot_eq]
              simpa [hk] using ih known trusted
        | certAuthority =>
            have hj : e.judgement key = ⊥ := by
              simp [Entry.judgement, hm, HostKeyStatus.bot_eq_unknown]
            rw [hj, sup_bot_eq]
            exact ih known trusted
      · have hout : e.hosts.include identity = false := by simpa using hin
        rw [if_neg hin, Entry.saying_of_not_include key hout, sup_bot_eq]
        exact ih known trusted

theorem check_eq_sup (store : KnownHosts) (host : String) (port : UInt16) (key : PublicKey) :
    store.check host port key =
      store.entries.toFinset.sup (Entry.saying (hostIdentity host port) key) := by
  rw [check, verdict_eq_sup]
  exact bot_sup_eq _

end KnownHosts

end SshTunnel
