import SshTunnel.Proofs.Except
import SshTunnel.Text.Utf8

/-!
# UTF-8 is read back as it was written

`next` reads the octets of a character off the front of a sequence and nothing else
(`next_eq_char_iff`). So `decode` gives a text for its octets, and for no others.
-/

namespace SshTunnel.Text.Utf8

theorem isTail_iff (b : UInt8) : isTail b = true ↔ 0x80 ≤ b.toNat ∧ b.toNat ≤ 0xBF := by
  simp [isTail, UInt8.le_iff_toNat_le]

theorem isSecond_iff (first b : UInt8) :
    isSecond first b = true ↔
      0x80 ≤ b.toNat ∧ b.toNat ≤ 0xBF ∧ (first.toNat = 0xE0 → 0xA0 ≤ b.toNat) ∧
        (first.toNat = 0xED → b.toNat ≤ 0x9F) ∧ (first.toNat = 0xF0 → 0x90 ≤ b.toNat) ∧
        (first.toNat = 0xF4 → b.toNat ≤ 0x8F) := by
  simp only [isSecond, secondRange, Bool.and_eq_true, decide_eq_true_eq, UInt8.le_iff_toNat_le,
    ← UInt8.toNat_inj, UInt8.reduceToNat]
  repeat' split
  all_goals
    simp only [UInt8.reduceToNat]
    omega

/-! ## Where the front is a character -/

/-- Octets start with those of a character with a code, in one of the four forms there are. -/
inductive Leads : UInt8 → Bytes → Nat → Bytes → Prop
  | one {b : UInt8} {rest : Bytes} {n : Nat} (hb : b.toNat < 0x80) (hn : n = b.toNat) :
      Leads b rest n rest
  | two {b t : UInt8} {rest : Bytes} {n : Nat} (hb : 0xC2 ≤ b.toNat) (hb' : b.toNat ≤ 0xDF)
      (ht : isTail t = true) (hn : n = b.toNat % 0x20 * 0x40 + tailBits t) :
      Leads b (t :: rest) n rest
  | three {b s t : UInt8} {rest : Bytes} {n : Nat} (hb : 0xE0 ≤ b.toNat) (hb' : b.toNat ≤ 0xEF)
      (hs : isSecond b s = true) (ht : isTail t = true)
      (hn : n = b.toNat % 0x10 * 0x1000 + tailBits s * 0x40 + tailBits t) :
      Leads b (s :: t :: rest) n rest
  | four {b s t u : UInt8} {rest : Bytes} {n : Nat} (hb : 0xF0 ≤ b.toNat) (hb' : b.toNat ≤ 0xF4)
      (hs : isSecond b s = true) (ht : isTail t = true) (hu : isTail u = true)
      (hn : n = b.toNat % 0x08 * 0x40000 + tailBits s * 0x1000 + tailBits t * 0x40 + tailBits u) :
      Leads b (s :: t :: u :: rest) n rest

theorem Leads.next_eq {b : UInt8} {r rest : Bytes} {n : Nat} (h : Leads b r n rest) :
    next b r = .char (Char.ofNat n) rest := by
  rw [next]
  simp only [Bool.and_eq_true, decide_eq_true_eq, UInt8.le_iff_toNat_le, UInt8.lt_iff_toNat_lt,
    UInt8.reduceToNat]
  cases h with
  | one hb hn => rw [if_pos hb, hn]
  | two hb hb' ht hn => rw [if_neg (by omega), if_pos (by omega), next2, if_pos ht, hn]
  | three hb hb' hs ht hn =>
      rw [if_neg (by omega), if_neg (by omega), if_pos (by omega), next3, if_pos hs, hn]
      simp only [if_pos ht]
  | four hb hb' hs ht hu hn =>
      rw [if_neg (by omega), if_neg (by omega), if_neg (by omega), if_pos (by omega), next4,
        if_pos hs, hn]
      simp only [if_pos ht, if_pos hu]

theorem exists_leads_of_next2 {b : UInt8} {r rest : Bytes} {c : Char} (hb : 0xC2 ≤ b.toNat)
    (hb' : b.toNat ≤ 0xDF) (h : next2 b r = .char c rest) :
    ∃ n, Leads b r n rest ∧ c = Char.ofNat n := by
  cases r with
  | nil => simp [next2] at h
  | cons t r =>
      rw [next2] at h
      split at h
      · next ht =>
          obtain ⟨rfl, rfl⟩ := Front.char.inj h
          exact ⟨_, .two hb hb' ht rfl, rfl⟩
      · simp at h

theorem exists_leads_of_next3 {b : UInt8} {r rest : Bytes} {c : Char} (hb : 0xE0 ≤ b.toNat)
    (hb' : b.toNat ≤ 0xEF) (h : next3 b r = .char c rest) :
    ∃ n, Leads b r n rest ∧ c = Char.ofNat n := by
  rcases r with - | ⟨s, - | ⟨t, r⟩⟩
  · simp [next3] at h
  · rw [next3] at h
    split at h <;> simp at h
  · rw [next3] at h
    split at h
    · next hs =>
        split at h
        · next ht =>
            obtain ⟨rfl, rfl⟩ := Front.char.inj h
            exact ⟨_, .three hb hb' hs ht rfl, rfl⟩
        · simp at h
    · simp at h

theorem exists_leads_of_next4 {b : UInt8} {r rest : Bytes} {c : Char} (hb : 0xF0 ≤ b.toNat)
    (hb' : b.toNat ≤ 0xF4) (h : next4 b r = .char c rest) :
    ∃ n, Leads b r n rest ∧ c = Char.ofNat n := by
  rcases r with - | ⟨s, - | ⟨t, - | ⟨u, r⟩⟩⟩
  · simp [next4] at h
  · rw [next4] at h
    split at h <;> simp at h
  · rw [next4] at h
    split at h
    · split at h <;> simp at h
    · simp at h
  · rw [next4] at h
    split at h
    · next hs =>
        split at h
        · next ht =>
            split at h
            · next hu =>
                obtain ⟨rfl, rfl⟩ := Front.char.inj h
                exact ⟨_, .four hb hb' hs ht hu rfl, rfl⟩
            · simp at h
        · simp at h
    · simp at h

theorem exists_leads_of_next {b : UInt8} {r rest : Bytes} {c : Char}
    (h : next b r = .char c rest) : ∃ n, Leads b r n rest ∧ c = Char.ofNat n := by
  rw [next] at h
  simp only [Bool.and_eq_true, decide_eq_true_eq, UInt8.le_iff_toNat_le, UInt8.lt_iff_toNat_lt,
    UInt8.reduceToNat] at h
  split at h
  · next hb =>
      obtain ⟨rfl, rfl⟩ := Front.char.inj h
      exact ⟨_, .one hb rfl, rfl⟩
  · split at h
    · next hb => exact exists_leads_of_next2 hb.1 hb.2 h
    · split at h
      · next hb => exact exists_leads_of_next3 hb.1 hb.2 h
      · split at h
        · next hb => exact exists_leads_of_next4 hb.1 hb.2 h
        · simp at h

/-! ## The octets of a character -/

theorem toNat_ofNat_of_valid {n : Nat} (h : n.isValidChar) : (Char.ofNat n).toNat = n := by
  rw [Char.ofNat, dif_pos h]
  rfl

theorem eq_ofNat_of_toNat {b : UInt8} {n : Nat} (h : b.toNat = n) : UInt8.ofNat n = b := by
  rw [← h, UInt8.ofNat_toNat]

theorem Leads.octets {b : UInt8} {r rest : Bytes} {n : Nat} (h : Leads b r n rest) :
    b :: r = String.utf8EncodeChar (Char.ofNat n) ++ rest := by
  cases h with
  | one hb hn =>
      have hc : (Char.ofNat n).val.toNat = n := toNat_ofNat_of_valid (.inl (by omega))
      rw [String.utf8EncodeChar, hc, if_pos (by omega), eq_ofNat_of_toNat (b := b) hn.symm]
      rfl
  | two hb hb' ht hn =>
      rename_i t
      rw [isTail_iff] at ht
      rw [tailBits] at hn
      have hc : (Char.ofNat n).val.toNat = n := toNat_ofNat_of_valid (.inl (by omega))
      rw [String.utf8EncodeChar, hc, if_neg (by omega), if_pos (by omega),
        eq_ofNat_of_toNat (b := b) (by omega), eq_ofNat_of_toNat (b := t) (by omega)]
      rfl
  | three hb hb' hs ht hn =>
      rename_i s t
      rw [isSecond_iff] at hs
      rw [isTail_iff] at ht
      rw [tailBits, tailBits] at hn
      have hc : (Char.ofNat n).val.toNat = n :=
        toNat_ofNat_of_valid (by rw [Nat.isValidChar]; omega)
      rw [String.utf8EncodeChar, hc, if_neg (by omega), if_neg (by omega), if_pos (by omega),
        eq_ofNat_of_toNat (b := b) (by omega), eq_ofNat_of_toNat (b := s) (by omega),
        eq_ofNat_of_toNat (b := t) (by omega)]
      rfl
  | four hb hb' hs ht hu hn =>
      rename_i s t u
      rw [isSecond_iff] at hs
      rw [isTail_iff] at ht hu
      rw [tailBits, tailBits, tailBits] at hn
      have hc : (Char.ofNat n).val.toNat = n :=
        toNat_ofNat_of_valid (by rw [Nat.isValidChar]; omega)
      rw [String.utf8EncodeChar, hc, if_neg (by omega), if_neg (by omega), if_neg (by omega),
        eq_ofNat_of_toNat (b := b) (by omega), eq_ofNat_of_toNat (b := s) (by omega),
        eq_ofNat_of_toNat (b := t) (by omega), eq_ofNat_of_toNat (b := u) (by omega)]
      rfl

theorem toNat_ofNat_of_lt {k : Nat} (h : k < 0x100) : (UInt8.ofNat k).toNat = k :=
  UInt8.toNat_ofNat_of_lt' h

theorem leads_of_octets (c : Char) (rest : Bytes) :
    ∃ b r, String.utf8EncodeChar c ++ rest = b :: r ∧ Leads b r c.toNat rest := by
  have hc : c.toNat < 0xD800 ∨ 0xDFFF < c.toNat ∧ c.toNat < 0x110000 := c.valid
  rw [String.utf8EncodeChar, Char.toNat_val]
  generalize c.toNat = n at hc
  have hlow : (UInt8.ofNat (n % 64 + 128)).toNat = n % 64 + 128 := toNat_ofNat_of_lt (by omega)
  have hmid : (UInt8.ofNat (n / 64 % 64 + 128)).toNat = n / 64 % 64 + 128 :=
    toNat_ofNat_of_lt (by omega)
  have hhigh : (UInt8.ofNat (n / 4096 % 64 + 128)).toNat = n / 4096 % 64 + 128 :=
    toNat_ofNat_of_lt (by omega)
  by_cases h1 : n ≤ 0x7F
  · have hb : (UInt8.ofNat n).toNat = n := toNat_ofNat_of_lt (by omega)
    rw [if_pos h1]
    exact ⟨_, _, rfl, .one (by omega) hb.symm⟩
  by_cases h2 : n ≤ 0x7FF
  · have hb : (UInt8.ofNat (n / 64 % 32 + 192)).toNat = n / 64 % 32 + 192 :=
      toNat_ofNat_of_lt (by omega)
    rw [if_neg h1, if_pos h2]
    refine ⟨_, _, rfl, .two (by omega) (by omega) ?_ ?_⟩
    · rw [isTail_iff]
      omega
    · rw [tailBits]
      omega
  by_cases h3 : n ≤ 0xFFFF
  · have hb : (UInt8.ofNat (n / 4096 % 16 + 224)).toNat = n / 4096 % 16 + 224 :=
      toNat_ofNat_of_lt (by omega)
    rw [if_neg h1, if_neg h2, if_pos h3]
    refine ⟨_, _, rfl, .three (by omega) (by omega) ?_ ?_ ?_⟩
    · rw [isSecond_iff]
      omega
    · rw [isTail_iff]
      omega
    · rw [tailBits, tailBits]
      omega
  · have hb : (UInt8.ofNat (n / 262144 % 8 + 240)).toNat = n / 262144 % 8 + 240 :=
      toNat_ofNat_of_lt (by omega)
    rw [if_neg h1, if_neg h2, if_neg h3]
    refine ⟨_, _, rfl, .four (by omega) (by omega) ?_ ?_ ?_ ?_⟩
    · rw [isSecond_iff]
      omega
    · rw [isTail_iff]
      omega
    · rw [isTail_iff]
      omega
    · rw [tailBits, tailBits, tailBits]
      omega

/-- A character is read off the front of a sequence iff its octets stand there. -/
theorem next_eq_char_iff {b : UInt8} {r rest : Bytes} {c : Char} :
    next b r = .char c rest ↔ b :: r = String.utf8EncodeChar c ++ rest := by
  constructor
  · intro h
    obtain ⟨n, hleads, rfl⟩ := exists_leads_of_next h
    exact hleads.octets
  · intro h
    obtain ⟨b', r', heq, hleads⟩ := leads_of_octets c rest
    obtain ⟨rfl, rfl⟩ := List.cons.inj (h.trans heq)
    rw [hleads.next_eq, Char.ofNat_toNat]

/-! ## Whole sequences -/

theorem decodeFrom_cons_eq_ok_iff {index : Nat} {b : UInt8} {r : Bytes} {s : List Char} :
    decodeFrom index (b :: r) = .ok s ↔
      ∃ c rest t, next b r = .char c rest ∧ decodeFrom (index + c.utf8Size) rest = .ok t ∧
        c :: t = s := by
  rw [decodeFrom]
  split
  · next c rest hnext =>
      rw [map_eq_ok_iff]
      constructor
      · rintro ⟨t, ht, rfl⟩
        exact ⟨c, rest, t, hnext, ht, rfl⟩
      · rintro ⟨c', rest', t, hnext', ht, rfl⟩
        obtain ⟨rfl, rfl⟩ := Front.char.inj (hnext.symm.trans hnext')
        exact ⟨t, ht, rfl⟩
  · next n rest hnext => simp [hnext]
  · next hnext => simp [hnext]

theorem encode_cons_ne_nil (c : Char) (s : List Char) : encode (c :: s) ≠ [] := by
  obtain ⟨b, r, h, -⟩ := leads_of_octets c (encode s)
  rw [encode_cons, h]
  simp

theorem decodeFrom_eq_ok_iff {index : Nat} {octets : Bytes} {s : List Char} :
    decodeFrom index octets = .ok s ↔ octets = encode s := by
  induction s generalizing index octets with
  | nil =>
      cases octets with
      | nil => simp [decodeFrom]
      | cons b r => simp [decodeFrom_cons_eq_ok_iff]
  | cons c s ih =>
      cases octets with
      | nil => simp [decodeFrom, (encode_cons_ne_nil c s).symm]
      | cons b r =>
          rw [decodeFrom_cons_eq_ok_iff, encode_cons, ← next_eq_char_iff]
          constructor
          · rintro ⟨c', rest, t, hnext, ht, hcons⟩
            obtain ⟨rfl, rfl⟩ := List.cons.inj hcons
            rw [ih] at ht
            rw [hnext, ht]
          · intro hnext
            exact ⟨c, encode s, s, hnext, ih.2 rfl, rfl⟩

theorem decode_eq_ok_iff {octets : Bytes} {s : List Char} :
    decode octets = .ok s ↔ octets = encode s :=
  decodeFrom_eq_ok_iff

theorem decode_ofString (s : String) : decode (ofString s) = .ok s.toList :=
  decode_eq_ok_iff.2 rfl

theorem ofString_inj {s t : String} : ofString s = ofString t ↔ s = t := by
  constructor
  · intro h
    have hs := decode_ofString s
    rw [h, decode_ofString t] at hs
    exact String.toList_inj.1 (Except.ok.inj hs).symm
  · rintro rfl
    rfl

theorem decodeLossy_encode (s : List Char) : decodeLossy (encode s) = s := by
  induction s with
  | nil => rw [encode_nil, decodeLossy]
  | cons c s ih =>
      obtain ⟨b, r, heq, hleads⟩ := leads_of_octets c (encode s)
      have hnext : next b r = .char c (encode s) := by
        rw [hleads.next_eq, Char.ofNat_toNat]
      rw [encode_cons, heq, decodeLossy]
      split
      · next c' rest hchar =>
          obtain ⟨rfl, rfl⟩ := Front.char.inj (hnext.symm.trans hchar)
          rw [ih]
      · next n rest hinvalid => simp [hnext] at hinvalid
      · next hincomplete => simp [hnext] at hincomplete

@[simp] theorem ofList_decodeLossy_ofString (s : String) :
    String.ofList (decodeLossy (ofString s)) = s := by
  rw [ofString, decodeLossy_encode, String.ofList_toList]

end SshTunnel.Text.Utf8
