import SshTunnel.Proofs.Text.Utf8
import SshTunnel.Text.Blank
import SshTunnel.Text.Percent

/-!
# Percent groups are read back as they were written

`Escapes plus written octets` tells how octets may be written: an ASCII letter or digit as itself
or as a percent group, every other octet as a percent group, and a space also as a plus sign where
that is allowed. Whatever the choice, taking the groups back gives the octets.
-/

namespace SshTunnel.Text.Percent

/-- A text writes octets with percent groups, in digits of either case. -/
inductive Escapes (plus : Bool) : List Char → Bytes → Prop
  | nil : Escapes plus [] []
  | plain {b : UInt8} {w : List Char} {s : Bytes} (hb : isPlain b = true)
      (h : Escapes plus w s) : Escapes plus (Char.ofNat b.toNat :: w) (b :: s)
  | group {b x y : UInt8} {w : List Char} {s : Bytes} (hx : hexValue? x = some (b / 16))
      (hy : hexValue? y = some (b % 16)) (h : Escapes plus w s) :
      Escapes plus ('%' :: Char.ofNat x.toNat :: Char.ofNat y.toNat :: w) (b :: s)
  | space {w : List Char} {s : Bytes} (hplus : plus = true) (h : Escapes plus w s) :
      Escapes plus ('+' :: w) (0x20 :: s)

/-! ## Octets of ASCII characters -/

theorem isPlain_iff (b : UInt8) :
    isPlain b = true ↔ (0x30 ≤ b.toNat ∧ b.toNat ≤ 0x39) ∨ (0x41 ≤ b.toNat ∧ b.toNat ≤ 0x5A) ∨
      (0x61 ≤ b.toNat ∧ b.toNat ≤ 0x7A) := by
  simp only [isPlain, Bool.or_eq_true, Bool.and_eq_true, decide_eq_true_eq,
    UInt8.le_iff_toNat_le, UInt8.reduceToNat, or_assoc]

theorem isPlain_of_hexValue? {b v : UInt8} (h : hexValue? b = some v) : isPlain b = true := by
  rw [isPlain_iff]
  simp only [hexValue?, Bool.and_eq_true, decide_eq_true_eq, UInt8.le_iff_toNat_le,
    UInt8.reduceToNat] at h
  split at h
  · omega
  · split at h
    · omega
    · split at h
      · omega
      · simp at h

theorem encode_cons_of_plain {b : UInt8} (w : List Char) (h : isPlain b = true) :
    Utf8.encode (Char.ofNat b.toNat :: w) = b :: Utf8.encode w := by
  rw [isPlain_iff] at h
  have hlead : Utf8.Leads b (Utf8.encode w) b.toNat (Utf8.encode w) := .one (by omega) rfl
  rw [Utf8.encode_cons, ← hlead.octets]

theorem encode_cons_percent (w : List Char) : Utf8.encode ('%' :: w) = 0x25 :: Utf8.encode w := rfl

theorem encode_cons_blank (w : List Char) : Utf8.encode (' ' :: w) = 0x20 :: Utf8.encode w := rfl

theorem toNat_ofNat_of_plain {b : UInt8} (h : isPlain b = true) :
    (Char.ofNat b.toNat).toNat = b.toNat := by
  rw [isPlain_iff] at h
  exact Utf8.toNat_ofNat_of_valid (.inl (by omega))

/-! ## The characters that groups are written with -/

/-- A letter or digit is none of the characters that mean something in a URI. -/
theorem ofNat_ne_of_plain {b : UInt8} (h : isPlain b = true) {c : Char}
    (hc : c ∈ ['%', '+', '/', '?', '#', '@', ':', '[', ']', '&', '=', ' ']) :
    Char.ofNat b.toNat ≠ c := by
  intro heq
  have hnat := toNat_ofNat_of_plain h
  rw [isPlain_iff] at h
  rw [heq] at hnat
  simp only [List.mem_cons, List.not_mem_nil, or_false] at hc
  rcases hc with rfl | rfl | rfl | rfl | rfl | rfl | rfl | rfl | rfl | rfl | rfl | rfl <;>
    simp only [Char.reduceToNat] at hnat <;> omega

/-- What is written with percent groups contains none of the characters that a URI is cut at. -/
theorem Escapes.not_mem {plus : Bool} {w : List Char} {s : Bytes} (h : Escapes plus w s) {c : Char}
    (hc : c ∈ ['/', '?', '#', '@', ':', '[', ']', '&', '=', ' ']) : c ∉ w := by
  have hc' : c ∈ ['%', '+', '/', '?', '#', '@', ':', '[', ']', '&', '=', ' '] := by
    simp_all
  induction h with
  | nil => simp
  | plain hb _ ih => simp [(ofNat_ne_of_plain hb hc').symm, ih]
  | group hx hy _ ih =>
      have hne : c ≠ '%' := by rintro rfl; simp at hc
      simp [(ofNat_ne_of_plain (isPlain_of_hexValue? hx) hc').symm,
        (ofNat_ne_of_plain (isPlain_of_hexValue? hy) hc').symm, hne, ih]
  | space _ _ ih =>
      have hne : c ≠ '+' := by rintro rfl; simp at hc
      simp [hne, ih]

theorem isBlank_ofNat_of_plain {b : UInt8} (h : isPlain b = true) :
    isBlank (Char.ofNat b.toNat) = false := by
  have hnat := toNat_ofNat_of_plain h
  rw [isPlain_iff] at h
  simp only [isBlank, hnat, Bool.or_eq_false_iff, Bool.and_eq_false_iff, decide_eq_false_iff_not,
    beq_eq_false_iff_ne]
  omega

theorem Escapes.isBlank_eq_false {plus : Bool} {w : List Char} {s : Bytes} (h : Escapes plus w s) :
    ∀ c ∈ w, isBlank c = false := by
  induction h with
  | nil => simp
  | plain hb _ ih => simpa [isBlank_ofNat_of_plain hb] using ih
  | group hx hy _ ih =>
      have hpercent : isBlank '%' = false := by decide
      simpa [isBlank_ofNat_of_plain (isPlain_of_hexValue? hx),
        isBlank_ofNat_of_plain (isPlain_of_hexValue? hy), hpercent] using ih
  | space _ _ ih =>
      have hplus : isBlank '+' = false := by decide
      simpa [hplus] using ih

theorem Escapes.plus_not_mem {w : List Char} {s : Bytes} (h : Escapes false w s) : '+' ∉ w := by
  induction h with
  | nil => simp
  | plain hb _ ih => simp [(ofNat_ne_of_plain hb (c := '+') (by simp)).symm, ih]
  | group hx hy _ ih =>
      simp [(ofNat_ne_of_plain (isPlain_of_hexValue? hx) (c := '+') (by simp)).symm,
        (ofNat_ne_of_plain (isPlain_of_hexValue? hy) (c := '+') (by simp)).symm, ih]
  | space hplus => simp at hplus

theorem Escapes.append {plus : Bool} {w w' : List Char} {s s' : Bytes} (h : Escapes plus w s)
    (h' : Escapes plus w' s') : Escapes plus (w ++ w') (s ++ s') := by
  induction h with
  | nil => exact h'
  | plain hb _ ih => exact .plain hb ih
  | group hx hy _ ih => exact .group hx hy ih
  | space hplus _ ih => exact .space hplus ih

/-! ## Reading back -/

theorem unescape_group {x y u v : UInt8} (hx : hexValue? x = some u) (hy : hexValue? y = some v)
    (r : Bytes) : unescape (0x25 :: x :: y :: r) = (u * 16 + v) :: unescape r := by
  simp only [unescape, hx, hy]

theorem div_mul_add_mod (b : UInt8) : b / 16 * 16 + b % 16 = b := by
  rw [← UInt8.toNat_inj]
  simp only [UInt8.toNat_add, UInt8.toNat_mul, UInt8.toNat_div, UInt8.toNat_mod, UInt8.reduceToNat]
  have hlt := b.toNat_lt
  omega

/-- Octets that were written with groups and plus signs are had back by taking the plus signs for
spaces first and the groups for octets then. -/
theorem Escapes.unescape_eq {plus : Bool} {w : List Char} {s : Bytes} (h : Escapes plus w s) :
    unescape (Utf8.encode (w.map fun c => if c = '+' then ' ' else c)) = s := by
  have hplain : ∀ {b : UInt8}, isPlain b = true →
      (if Char.ofNat b.toNat = '+' then ' ' else Char.ofNat b.toNat) = Char.ofNat b.toNat :=
    fun hb => if_neg (ofNat_ne_of_plain hb (by simp))
  induction h with
  | nil => exact unescape_nil
  | @plain b w s hb _ ih =>
      have hne : b ≠ 0x25 := by
        rintro rfl
        exact absurd hb (by decide)
      rw [List.map_cons, hplain hb, encode_cons_of_plain _ hb, unescape_cons_of_ne _ hne, ih]
  | group hx hy _ ih =>
      have hpx := isPlain_of_hexValue? hx
      have hpy := isPlain_of_hexValue? hy
      rw [List.map_cons, List.map_cons, List.map_cons, hplain hpx, hplain hpy,
        if_neg (by decide), encode_cons_percent, encode_cons_of_plain _ hpx,
        encode_cons_of_plain _ hpy, unescape_group hx hy, div_mul_add_mod, ih]
  | space _ _ ih =>
      rw [List.map_cons, if_pos rfl, encode_cons_blank, unescape_cons_of_ne _ (by decide), ih]

/-- A text that was written with groups is decoded to itself. -/
theorem Escapes.decode_eq {w s : List Char} (h : Escapes false w (Utf8.encode s)) :
    decode w = .ok s := by
  have hmap : w.map (fun c => if c = '+' then ' ' else c) = w.map id :=
    List.map_congr_left fun c hc => if_neg (ne_of_mem_of_not_mem hc h.plus_not_mem)
  rw [List.map_id] at hmap
  rw [decode, Utf8.decode_eq_ok_iff, ← hmap, h.unescape_eq]

theorem percent_not_mem_utf8EncodeChar {c : Char} (h : c ≠ '%') :
    (0x25 : UInt8) ∉ String.utf8EncodeChar c := by
  obtain ⟨b, r, heq, hlead⟩ := Utf8.leads_of_octets c []
  rw [List.append_nil] at heq
  rw [heq]
  have htail : ∀ {t : UInt8}, Utf8.isTail t = true → 0x25 ≠ t := by
    rintro t ht rfl
    exact absurd ht (by decide)
  have hsecond : ∀ {t : UInt8}, Utf8.isSecond b t = true → 0x25 ≠ t := by
    rintro t ht rfl
    have hlow := ((Utf8.isSecond_iff b 0x25).1 ht).1
    simp at hlow
  have hfirst : ∀ {n : Nat}, n ≤ b.toNat → 0x25 < n → 0x25 ≠ b := by
    rintro n hn hlt rfl
    simp at hn
    omega
  cases hlead with
  | one hb hn =>
      have hne : (0x25 : UInt8) ≠ b := by
        rintro rfl
        exact h (Char.toNat_inj.1 hn)
      simpa using hne
  | two hb hb' ht hn => simp [hfirst hb (by omega), htail ht]
  | three hb hb' hs ht hn => simp [hfirst hb (by omega), hsecond hs, htail ht]
  | four hb hb' hs ht hu hn => simp [hfirst hb (by omega), hsecond hs, htail ht, htail hu]

/-! ## Texts that stand for themselves -/

/-- A percent sign with two hexadecimal digits after it stands among the octets. -/
def HoldsGroup (s : Bytes) : Prop :=
  ∃ x y, (hexValue? x).isSome ∧ (hexValue? y).isSome ∧ [0x25, x, y] <:+: s

theorem not_holdsGroup_nil : ¬ HoldsGroup [] := by
  rintro ⟨x, y, -, -, h⟩
  simp at h

theorem holdsGroup_cons {c : UInt8} {s : Bytes} :
    HoldsGroup (c :: s) ↔
      (c = 0x25 ∧ ∃ x y r, s = x :: y :: r ∧ (hexValue? x).isSome ∧ (hexValue? y).isSome) ∨
        HoldsGroup s := by
  constructor
  · rintro ⟨x, y, hx, hy, hwithin⟩
    rcases List.infix_cons_iff.1 hwithin with ⟨r, hr⟩ | hwithin
    · obtain ⟨rfl, rfl⟩ := List.cons.inj hr
      exact .inl ⟨rfl, x, y, r, rfl, hx, hy⟩
    · exact .inr ⟨x, y, hx, hy, hwithin⟩
  · rintro (⟨rfl, x, y, r, rfl, hx, hy⟩ | ⟨x, y, hx, hy, hwithin⟩)
    · exact ⟨x, y, hx, hy, [], r, rfl⟩
    · exact ⟨x, y, hx, hy, List.infix_cons hwithin⟩

theorem HoldsGroup.mem {s : Bytes} (h : HoldsGroup s) : 0x25 ∈ s := by
  obtain ⟨x, y, -, -, hwithin⟩ := h
  exact hwithin.subset (by simp)

/-- Octets that hold no group are left as they are, and others get fewer. -/
theorem unescape_cases (s : Bytes) :
    (unescape s = s ∧ ¬ HoldsGroup s) ∨ ((unescape s).length < s.length ∧ HoldsGroup s) := by
  have hpercent : hexValue? 0x25 = none := by decide
  induction s using unescape.induct with
  | case1 => exact .inl ⟨unescape_nil, not_holdsGroup_nil⟩
  | case2 x y r u v hy hx ih =>
      refine .inr ⟨?_, holdsGroup_cons.2 (.inl ⟨rfl, x, y, r, rfl, by simp [hx], by simp [hy]⟩)⟩
      rw [unescape_group hx hy]
      rcases ih with ⟨heq, -⟩ | ⟨hlt, -⟩
      · simp [heq]
      · simp only [List.length_cons]
        omega
  | case3 x y r u hy hx ih =>
      have hstep : unescape (0x25 :: x :: y :: r) = 0x25 :: x :: unescape (y :: r) := by
        simp only [unescape, hx, hy]
      have hne : x ≠ 0x25 := by
        rintro rfl
        simp [hpercent] at hx
      have hholds : HoldsGroup (0x25 :: x :: y :: r) ↔ HoldsGroup (y :: r) := by
        simp [holdsGroup_cons (s := x :: y :: r), holdsGroup_cons (c := x), hne, hy]
      simpa [hstep, hholds] using ih
  | case4 x y r hx ih =>
      have hstep : unescape (0x25 :: x :: y :: r) = 0x25 :: unescape (x :: y :: r) := by
        simp only [unescape, hx]
      have hholds : HoldsGroup (0x25 :: x :: y :: r) ↔ HoldsGroup (x :: y :: r) := by
        simp [holdsGroup_cons (s := x :: y :: r), hx]
      simpa [hstep, hholds] using ih
  | case5 c r hshort ih =>
      have hstep : unescape (c :: r) = c :: unescape r := by
        rw [unescape]
        exact hshort
      have hholds : HoldsGroup (c :: r) ↔ HoldsGroup r := by
        rw [holdsGroup_cons, or_iff_right]
        rintro ⟨rfl, x, y, r, rfl, -, -⟩
        exact hshort x y r rfl rfl
      simpa [hstep, hholds] using ih

theorem length_unescape_le (s : Bytes) : (unescape s).length ≤ s.length := by
  rcases unescape_cases s with ⟨h, -⟩ | ⟨h, -⟩
  · exact Nat.le_of_eq (by rw [h])
  · exact Nat.le_of_lt h

theorem unescape_eq_self_iff {s : Bytes} : unescape s = s ↔ ¬ HoldsGroup s := by
  rcases unescape_cases s with ⟨h, hnot⟩ | ⟨h, hholds⟩
  · simp [h, hnot]
  · refine iff_of_false (fun heq => ?_) (fun hnot => hnot hholds)
    rw [heq] at h
    exact Nat.lt_irrefl _ h

theorem decode_eq_self_iff {s : List Char} : decode s = .ok s ↔ ¬ HoldsGroup (Utf8.encode s) := by
  rw [decode, Utf8.decode_eq_ok_iff, unescape_eq_self_iff]

/-- A text is not had by decoding a part of it. -/
theorem eq_of_decode_of_prefix {u s : List Char} (hu : u <+: s) (h : decode u = .ok s) : u = s := by
  obtain ⟨t, rfl⟩ := hu
  rw [decode, Utf8.decode_eq_ok_iff] at h
  have hlength := length_unescape_le (Utf8.encode u)
  rw [h, Utf8.encode_append, List.length_append] at hlength
  have ht : Utf8.encode t = [] := List.length_eq_zero_iff.1 (by omega)
  cases t with
  | nil => simp
  | cons c t => simp [Utf8.encode_cons] at ht

/-- A text without percent signs holds no group. -/
theorem not_holdsGroup_of_not_mem {s : List Char} (h : '%' ∉ s) :
    ¬ HoldsGroup (Utf8.encode s) := by
  intro hholds
  obtain ⟨c, hc, hmem⟩ := List.mem_flatMap.1 hholds.mem
  exact percent_not_mem_utf8EncodeChar (ne_of_mem_of_not_mem hc h) hmem

/-- A text without percent signs is decoded to itself. -/
theorem decode_eq_of_not_mem {s : List Char} (h : '%' ∉ s) : decode s = .ok s :=
  decode_eq_self_iff.2 (not_holdsGroup_of_not_mem h)

theorem escapes_encode (plus : Bool) (s : List Char) : Escapes plus (encode s) (Utf8.encode s) := by
  have hdigits : ∀ n : Fin 16, hexValue? (hexDigit (UInt8.ofNat n)) = some (UInt8.ofNat n) := by
    decide
  have hdigit : ∀ v : UInt8, v.toNat < 16 → hexValue? (hexDigit v) = some v := fun v hv => by
    simpa using hdigits ⟨v.toNat, hv⟩
  rw [encode]
  induction Utf8.encode s with
  | nil => exact .nil
  | cons b octets ih =>
      rw [List.flatMap_cons, List.map_append, escapeByte]
      split
      · next hb => exact .plain hb ih
      · refine .group (hdigit _ ?_) (hdigit _ ?_) ih
        · have hlt := b.toNat_lt
          simp only [UInt8.toNat_div, UInt8.reduceToNat]
          omega
        · simp only [UInt8.toNat_mod, UInt8.reduceToNat]
          omega

end SshTunnel.Text.Percent
