import SshTunnel.Text.Utf8

/-!
# Numbers as octets

`ofWord` and `ofLong` write a number of thirty-two and sixty-four bits with its highest octet
first; `toNat` is the number that octets write. `take?` cuts off a given number of octets, if there
are that many.
-/

namespace SshTunnel.Bytes

def toNat (s : Bytes) : Nat :=
  s.foldl (fun n b => 256 * n + b.toNat) 0

def word (a b c d : UInt8) : UInt32 :=
  a.toUInt32 <<< 24 ||| b.toUInt32 <<< 16 ||| c.toUInt32 <<< 8 ||| d.toUInt32

def ofWord (w : UInt32) : Bytes :=
  [(w >>> 24).toUInt8, (w >>> 16).toUInt8, (w >>> 8).toUInt8, w.toUInt8]

def ofLong (n : Nat) : Bytes :=
  ofWord (n / 4294967296).toUInt32 ++ ofWord n.toUInt32

def ofNat (n : Nat) : Bytes :=
  if n = 0 then [] else ofNat (n / 256) ++ [n.toUInt8]

def take? (n : Nat) (s : Bytes) : Option (Bytes × Bytes) :=
  let front := s.take n
  if front.length = n then some (front, s.drop n) else none

@[simp] theorem toNat_nil : toNat [] = 0 := rfl

@[simp] theorem length_ofWord (w : UInt32) : (ofWord w).length = 4 := rfl

theorem take?_eq_some_iff {n : Nat} {s a b : Bytes} :
    take? n s = some (a, b) ↔ a.length = n ∧ s = a ++ b := by
  simp only [take?]
  constructor
  · intro h
    split at h
    · next hn =>
        obtain ⟨rfl, rfl⟩ : s.take n = a ∧ s.drop n = b := by simpa using h
        exact ⟨hn, (List.take_append_drop n s).symm⟩
    · simp at h
  · rintro ⟨rfl, rfl⟩
    simp

theorem take?_eq_none_iff {n : Nat} {s : Bytes} : take? n s = none ↔ s.length < n := by
  simp only [take?, List.length_take]
  split <;> simp <;> omega

end SshTunnel.Bytes
