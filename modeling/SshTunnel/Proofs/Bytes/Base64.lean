import Mathlib.Algebra.Ring.Nat
import Mathlib.Data.FinEnum
import SshTunnel.Bytes.Base64
import SshTunnel.Proofs.Except

/-!
# What Base64 decodes to

Three octets and the four values that their symbols stand for determine each other, also where
fewer octets are filled up with zero bits. So `decode` takes what `encode` writes, and nothing else
(`decode_eq_ok_iff`).
-/

namespace SshTunnel.Base64

/-! ## Symbols -/

theorem sextet?_symbol : ∀ v : UInt8, v < 64 → sextet? (symbol v) = some v := by
  decide +kernel

theorem symbol_of_sextet? {b v : UInt8} (h : sextet? b = some v) : v < 64 ∧ symbol v = b := by
  have hall : ∀ b : UInt8, (sextet? b).all fun v => v < 64 ∧ symbol v = b := by decide +kernel
  simpa [h] using hall b

theorem symbol_ne_pad : ∀ v : UInt8, v < 64 → symbol v ≠ pad := by
  decide +kernel

theorem symbol_ne_bar : ∀ v : UInt8, v < 64 → symbol v ≠ 0x7C := by
  decide +kernel

theorem sextets_eq_ok_iff {offset : Nat} {s : Bytes} {values : List UInt8} :
    sextets offset s = .ok values ↔ s = values.map symbol ∧ ∀ v ∈ values, v < 64 := by
  induction s generalizing offset values with
  | nil =>
      rw [sextets]
      constructor
      · rintro ⟨⟩
        simp
      · rintro ⟨hs, -⟩
        rw [List.map_eq_nil_iff.1 hs.symm]
  | cons b s ih =>
      rw [sextets]
      constructor
      · intro h
        cases hb : sextet? b with
        | none => simp [hb] at h
        | some v =>
            rw [hb] at h
            obtain ⟨rest, hrest, rfl⟩ := map_eq_ok_iff.1 h
            obtain ⟨rfl, hall⟩ := ih.1 hrest
            obtain ⟨hv, rfl⟩ := symbol_of_sextet? hb
            exact ⟨rfl, List.forall_mem_cons.2 ⟨hv, hall⟩⟩
      · rintro ⟨hs, hall⟩
        obtain ⟨v, rest, rfl, rfl, rfl⟩ := List.map_eq_cons_iff.1 hs.symm
        obtain ⟨hv, hrest⟩ := List.forall_mem_cons.1 hall
        rw [sextet?_symbol v hv]
        exact map_eq_ok_iff.2 ⟨rest, ih.2 ⟨rfl, hrest⟩, rfl⟩

/-! ## Octets and the values of their symbols -/

theorem toNat_and_mask (v : UInt8) {mask : UInt8} {k : Nat} (hmask : mask.toNat = 2 ^ k - 1) :
    (v &&& mask).toNat = v.toNat % 2 ^ k := by
  rw [UInt8.toNat_and, hmask, Nat.and_two_pow_sub_one_eq_mod]

theorem toNat_shiftRight (v : UInt8) {places : UInt8} {k : Nat} (hplaces : places.toNat = k)
    (hk : k < 8) : (v >>> places).toNat = v.toNat / 2 ^ k := by
  rw [UInt8.toNat_shiftRight, hplaces, Nat.mod_eq_of_lt hk, Nat.shiftRight_eq_div_pow]

/-- The bits of `w` lie below those of `v` once these are moved up far enough. -/
theorem toNat_shiftLeft_or (v w : UInt8) {places : UInt8} {k : Nat} (hplaces : places.toNat = k)
    (hk : k < 8) (hw : w.toNat < 2 ^ k) :
    (v <<< places ||| w).toNat = 2 ^ k * v.toNat % 256 + w.toNat := by
  have hsplit : 2 ^ k * v.toNat % 256 = 2 ^ k * (v.toNat % 2 ^ (8 - k)) := by
    have hpow : 256 = 2 ^ k * 2 ^ (8 - k) := by
      rw [← Nat.pow_add, Nat.add_sub_cancel' hk.le]
    rw [hpow, Nat.mul_mod_mul_left]
  rw [UInt8.toNat_or, UInt8.toNat_shiftLeft, hplaces, Nat.mod_eq_of_lt hk, Nat.shiftLeft_eq,
    Nat.mul_comm v.toNat, hsplit, Nat.two_pow_add_eq_or_of_lt hw]

theorem toNat_first (a : UInt8) : (a >>> 2).toNat = a.toNat / 4 :=
  toNat_shiftRight a (k := 2) rfl (by decide)

theorem toNat_second (a b : UInt8) :
    ((a &&& 0x03) <<< 4 ||| b >>> 4).toNat = 16 * (a.toNat % 4) + b.toNat / 16 := by
  have hb := b.toNat_lt
  have hhigh : (a &&& 0x03).toNat = a.toNat % 4 := toNat_and_mask a (k := 2) rfl
  have hlow : (b >>> 4).toNat = b.toNat / 16 := toNat_shiftRight b (k := 4) rfl (by decide)
  rw [toNat_shiftLeft_or _ _ (k := 4) rfl (by decide) (by omega), hhigh, hlow]
  omega

theorem toNat_third (b c : UInt8) :
    ((b &&& 0x0F) <<< 2 ||| c >>> 6).toNat = 4 * (b.toNat % 16) + c.toNat / 64 := by
  have hc := c.toNat_lt
  have hhigh : (b &&& 0x0F).toNat = b.toNat % 16 := toNat_and_mask b (k := 4) rfl
  have hlow : (c >>> 6).toNat = c.toNat / 64 := toNat_shiftRight c (k := 6) rfl (by decide)
  rw [toNat_shiftLeft_or _ _ (k := 2) rfl (by decide) (by omega), hhigh, hlow]
  omega

theorem toNat_fourth (c : UInt8) : (c &&& 0x3F).toNat = c.toNat % 64 :=
  toNat_and_mask c (k := 6) rfl

section Values

variable {w x y z : UInt8}

theorem toNat_join_first (w : UInt8) (hx : x < 64) :
    (w <<< 2 ||| x >>> 4).toNat = 4 * w.toNat % 256 + x.toNat / 16 := by
  have hx' : x.toNat < 64 := hx
  have hlow : (x >>> 4).toNat = x.toNat / 16 := toNat_shiftRight x (k := 4) rfl (by decide)
  rw [toNat_shiftLeft_or _ _ (k := 2) rfl (by decide) (by omega), hlow]
  omega

theorem toNat_join_second (x : UInt8) (hy : y < 64) :
    (x <<< 4 ||| y >>> 2).toNat = 16 * x.toNat % 256 + y.toNat / 4 := by
  have hy' : y.toNat < 64 := hy
  have hlow : (y >>> 2).toNat = y.toNat / 4 := toNat_shiftRight y (k := 2) rfl (by decide)
  rw [toNat_shiftLeft_or _ _ (k := 4) rfl (by decide) (by omega), hlow]
  omega

theorem toNat_join_third (y : UInt8) (hz : z < 64) :
    (y <<< 6 ||| z).toNat = 64 * y.toNat % 256 + z.toNat :=
  toNat_shiftLeft_or _ _ (k := 6) rfl (by decide) hz

end Values

/-- The values of the symbols of three octets. -/
def split (a b c : UInt8) : List UInt8 :=
  [a >>> 2, (a &&& 0x03) <<< 4 ||| b >>> 4, (b &&& 0x0F) <<< 2 ||| c >>> 6, c &&& 0x3F]

theorem lt_of_mem_split {a b c v : UInt8} (h : v ∈ split a b c) : v < 64 := by
  have ha := a.toNat_lt
  have hb := b.toNat_lt
  have hc := c.toNat_lt
  have hlt : v.toNat < 64 := by
    simp only [split, List.mem_cons, List.not_mem_nil, or_false] at h
    rcases h with rfl | rfl | rfl | rfl
    · rw [toNat_first]
      omega
    · rw [toNat_second]
      omega
    · rw [toNat_third]
      omega
    · rw [toNat_fourth]
      omega
  exact hlt

theorem join_split (a b c : UInt8) (r : List UInt8) :
    join (split a b c ++ r) = a :: b :: c :: join r := by
  have ha := a.toNat_lt
  have hb := b.toNat_lt
  have hc := c.toNat_lt
  have hlt : ∀ v ∈ split a b c, v < 64 := fun _ => lt_of_mem_split
  simp only [split, List.forall_mem_cons] at hlt
  obtain ⟨-, hsecond, hthird, hfourth, -⟩ := hlt
  simp only [split, List.cons_append, List.nil_append, join, List.cons.injEq, and_true,
    ← UInt8.toNat_inj]
  rw [toNat_join_first _ hsecond, toNat_join_second _ hthird, toNat_join_third _ hfourth,
    toNat_first, toNat_second, toNat_third, toNat_fourth]
  omega

/-- The values that octets are joined from are those of their symbols. -/
theorem split_join {w x y z : UInt8} (hw : w < 64) (hx : x < 64) (hy : y < 64) (hz : z < 64) :
    split (w <<< 2 ||| x >>> 4) (x <<< 4 ||| y >>> 2) (y <<< 6 ||| z) = [w, x, y, z] := by
  have hw' : w.toNat < 64 := hw
  have hx' : x.toNat < 64 := hx
  have hy' : y.toNat < 64 := hy
  have hz' : z.toNat < 64 := hz
  simp only [split, List.cons.injEq, and_true, ← UInt8.toNat_inj, toNat_first, toNat_second,
    toNat_third, toNat_fourth, toNat_join_first _ hx, toNat_join_second _ hy,
    toNat_join_third _ hz]
  omega

/-! ## Texts and their octets -/

theorem encode_three (a b c : UInt8) (r : Bytes) :
    encode (a :: b :: c :: r) = (split a b c).map symbol ++ encode r := rfl

theorem encode_two (a b : UInt8) :
    encode [a, b] = ((split a b 0).take 3).map symbol ++ [pad] := by
  simp [encode, split]

theorem encode_one (a : UInt8) :
    encode [a] = ((split a 0 0).take 2).map symbol ++ [pad, pad] := by
  simp [encode, split]

/-! ### The end of a text -/

/-- Values that end a text, with so many padding signs after their symbols. -/
structure Ends (values : List UInt8) (pads : Nat) : Prop where
  lt : ∀ v ∈ values, v < 64
  /-- Two values make an octet, and only then may padding signs follow. -/
  enough : values.length ≠ 1 ∧ (pads = 0 ∨ 2 ≤ values.length)
  full : (values.length + pads) % 4 = 0
  tidy : isTidy values = true

theorem takeWhile_symbols {values : List UInt8} (h : ∀ v ∈ values, v < 64) (pads : Nat) :
    (values.map symbol ++ List.replicate pads pad).takeWhile (· ≠ pad) = values.map symbol := by
  rw [List.takeWhile_append_of_pos]
  · simp
  · intro b hb
    obtain ⟨v, hv, rfl⟩ := List.mem_map.1 hb
    simpa using symbol_ne_pad v (h v hv)

/-- What is decoded at the end of a text are symbols whose values end it, with padding signs. -/
theorem decodeLast_eq_ok_iff {offset : Nat} {s octets : Bytes} :
    decodeLast offset s = .ok octets ↔ ∃ values pads,
      Ends values pads ∧ s = values.map symbol ++ List.replicate pads pad ∧
        octets = join values := by
  rw [decodeLast]
  constructor
  · intro h
    obtain ⟨values, hvalues, h⟩ := bind_eq_ok_iff.1 h
    obtain ⟨hsymbols, hlt⟩ := sextets_eq_ok_iff.1 hvalues
    obtain ⟨hfew, h⟩ := check_bind_eq_ok_iff.1 h
    obtain ⟨hother, h⟩ := check_bind_eq_ok_iff.1 h
    obtain ⟨hlone, h⟩ := check_bind_eq_ok_iff.1 h
    obtain ⟨hlength, h⟩ := check_bind_eq_ok_iff.1 h
    obtain ⟨htidy, h⟩ := check_bind_eq_ok_iff.1 h
    obtain rfl : join values = octets := by simpa [pure, Except.pure] using h
    rw [hsymbols, List.length_map] at hfew hother hlone
    obtain ⟨rest, hs⟩ : ∃ rest, s = values.map symbol ++ rest :=
      ⟨_, by rw [← hsymbols, List.takeWhile_append_dropWhile]⟩
    have hdrop : s.drop values.length = rest := by
      rw [hs, List.drop_left' (List.length_map ..)]
    rw [hdrop] at hfew hother
    have hpads : rest = List.replicate rest.length pad := by
      rw [List.eq_replicate_iff]
      simpa using hother
    refine ⟨values, rest.length, ⟨hlt, ⟨hlone, ?_⟩, ?_, by simpa using htidy⟩, ?_, rfl⟩
    · by_cases hrest : rest = []
      · exact .inl (by rw [hrest, List.length_nil])
      · exact .inr (Nat.le_of_not_lt fun hlt => hfew ⟨hrest, hlt⟩)
    · have hlen : s.length = values.length + rest.length := by
        rw [hs, List.length_append, List.length_map]
      omega
    · rw [← hpads]
      exact hs
  · rintro ⟨values, pads, ⟨hlt, ⟨hlone, hpads⟩, hfull, htidy⟩, rfl, rfl⟩
    have hdrop : (values.map symbol ++ List.replicate pads pad).drop values.length =
        List.replicate pads pad := List.drop_left' (List.length_map ..)
    rw [takeWhile_symbols hlt, List.length_map, hdrop, sextets_eq_ok_iff.2 ⟨rfl, hlt⟩]
    refine check_bind_eq_ok_iff.2 ⟨?_, check_bind_eq_ok_iff.2 ⟨?_, check_bind_eq_ok_iff.2
      ⟨hlone, check_bind_eq_ok_iff.2 ⟨?_, check_bind_eq_ok_iff.2 ⟨?_, rfl⟩⟩⟩⟩⟩
    · rintro ⟨hne, hfew⟩
      rcases hpads with rfl | hpads
      · exact hne rfl
      · omega
    · simp
    · simpa using hfull
    · simpa using htidy

theorem and_mask_eq_zero_iff {v mask : UInt8} {k : Nat} (hmask : mask.toNat = 2 ^ k - 1) :
    (v &&& mask == 0) = true ↔ v.toNat % 2 ^ k = 0 := by
  rw [beq_iff_eq, ← UInt8.toNat_inj, toNat_and_mask v hmask, UInt8.toNat_zero]

/-- Octets that are joined from the split at the end of a text are written as that end. -/
theorem Ends.encode_join {values : List UInt8} {pads : Nat} (h : Ends values pads)
    (hlength : values.length + pads ≤ 4) :
    encode (join values) = values.map symbol ++ List.replicate pads pad := by
  obtain ⟨hlt, ⟨hlone, hpads⟩, hfull, htidy⟩ := h
  match values with
  | [] =>
      obtain rfl : pads = 0 := by simpa using hpads
      rfl
  | [w] => simp at hlone
  | [w, x] =>
      obtain rfl : pads = 2 := by
        simp only [List.length_cons, List.length_nil] at hfull hlength
        omega
      have hx : x < 64 := hlt x (by simp)
      have hlow : x.toNat % 2 ^ 4 = 0 := (and_mask_eq_zero_iff rfl).1 htidy
      have hzero : x <<< 4 ||| (0 : UInt8) >>> 2 = 0 := by
        rw [← UInt8.toNat_inj, toNat_join_second x (by decide), UInt8.toNat_zero]
        omega
      have hlast : (0 : UInt8) <<< 6 ||| 0 = 0 := rfl
      have hvalues := split_join (hlt w (by simp)) hx (y := 0) (z := 0) (by decide) (by decide)
      rw [hzero, hlast] at hvalues
      rw [join, encode_one, hvalues]
      rfl
  | [w, x, y] =>
      obtain rfl : pads = 1 := by
        simp only [List.length_cons, List.length_nil] at hfull hlength
        omega
      have hy : y < 64 := hlt y (by simp)
      have hlow : y.toNat % 2 ^ 2 = 0 := (and_mask_eq_zero_iff rfl).1 htidy
      have hzero : y <<< 6 ||| 0 = 0 := by
        rw [← UInt8.toNat_inj, toNat_join_third y (by decide), UInt8.toNat_zero]
        omega
      have hvalues := split_join (hlt w (by simp)) (hlt x (by simp)) hy (z := 0) (by decide)
      rw [hzero] at hvalues
      rw [join, encode_two, hvalues]
      rfl
  | [w, x, y, z] =>
      obtain rfl : pads = 0 := by
        simp only [List.length_cons, List.length_nil] at hlength
        omega
      have hvalues := split_join (hlt w (by simp)) (hlt x (by simp)) (hlt y (by simp))
        (hlt z (by simp))
      rw [join, encode_three, hvalues]
      rfl
  | _ :: _ :: _ :: _ :: _ :: _ =>
      simp only [List.length_cons] at hlength
      omega

theorem ends_one (a : UInt8) : Ends ((split a 0 0).take 2) 2 where
  lt v hv := lt_of_mem_split (List.mem_of_mem_take hv)
  enough := by simp [split]
  full := by simp [split]
  tidy := by
    refine (and_mask_eq_zero_iff (k := 4) rfl).2 ?_
    rw [toNat_second]
    simp

theorem ends_two (a b : UInt8) : Ends ((split a b 0).take 3) 1 where
  lt v hv := lt_of_mem_split (List.mem_of_mem_take hv)
  enough := by simp [split]
  full := by simp [split]
  tidy := by
    refine (and_mask_eq_zero_iff (k := 2) rfl).2 ?_
    rw [toNat_third]
    simp

theorem ends_three (a b c : UInt8) : Ends (split a b c) 0 where
  lt v hv := lt_of_mem_split hv
  enough := by simp [split]
  full := by simp [split]
  tidy := rfl

theorem decodeLast_three (offset : Nat) (a b c : UInt8) :
    decodeLast offset ((split a b c).map symbol) = .ok [a, b, c] := by
  refine decodeLast_eq_ok_iff.2 ⟨_, 0, ends_three a b c, by simp, ?_⟩
  simpa [join] using (join_split a b c []).symm

/-! ### The whole of a text -/

theorem encode_ne_nil {octets : Bytes} (h : octets ≠ []) : encode octets ≠ [] := by
  match octets with
  | [] => exact absurd rfl h
  | [_] | [_, _] | _ :: _ :: _ :: _ => simp [encode]

theorem length_encode (octets : Bytes) : (encode octets).length % 4 = 0 := by
  induction octets using encode.induct with
  | case1 => rfl
  | case2 a => simp [encode]
  | case3 a b => simp [encode]
  | case4 a b c r ih =>
      rw [encode_three, List.length_append, List.length_map, split]
      simpa using ih

theorem mem_encode {octets : Bytes} {b : UInt8} (h : b ∈ encode octets) :
    b = pad ∨ ∃ v < 64, b = symbol v := by
  have hsymbol {values : List UInt8} (hlt : ∀ v ∈ values, v < 64) (hb : b ∈ values.map symbol) :
      ∃ v < 64, b = symbol v := by
    obtain ⟨v, hv, rfl⟩ := List.mem_map.1 hb
    exact ⟨v, hlt v hv, rfl⟩
  induction octets using encode.induct with
  | case1 => simp [encode] at h
  | case2 a =>
      rw [encode_one, List.mem_append] at h
      rcases h with h | h
      · exact .inr (hsymbol (ends_one a).lt h)
      · exact .inl (by simpa using h)
  | case3 a b =>
      rw [encode_two, List.mem_append] at h
      rcases h with h | h
      · exact .inr (hsymbol (ends_two a b).lt h)
      · exact .inl (by simpa using h)
  | case4 a b c r ih =>
      rw [encode_three, List.mem_append] at h
      rcases h with h | h
      · exact .inr (hsymbol (ends_three a b c).lt h)
      · exact ih h

theorem bar_not_mem_encode (octets : Bytes) : 0x7C ∉ encode octets := by
  intro h
  rcases mem_encode h with h | ⟨v, hv, h⟩
  · exact absurd h (by decide)
  · exact symbol_ne_bar v hv h.symm

theorem decodeFrom_encode (offset : Nat) (octets : Bytes) :
    decodeFrom offset (encode octets) = .ok octets := by
  induction octets using encode.induct generalizing offset with
  | case1 => rfl
  | case2 a =>
      refine decodeLast_eq_ok_iff.2 ⟨_, 2, ends_one a, encode_one a, ?_⟩
      have hjoin := (List.cons.inj (join_split a 0 0 [])).1
      exact congrArg (fun b => [b]) hjoin.symm
  | case3 a b =>
      refine decodeLast_eq_ok_iff.2 ⟨_, 1, ends_two a b, encode_two a b, ?_⟩
      have hjoin := List.cons.inj (join_split a b 0 [])
      exact congrArg₂ (fun a b => [a, b]) hjoin.1.symm (List.cons.inj hjoin.2).1.symm
  | case4 a b c r ih =>
      by_cases hr : r = []
      · rw [hr]
        exact decodeLast_three offset a b c
      · obtain ⟨e, t, ht⟩ := List.exists_cons_of_ne_nil (encode_ne_nil hr)
        have hvalues : sextets offset ((split a b c).map symbol) = .ok (split a b c) :=
          sextets_eq_ok_iff.2 ⟨rfl, fun _ => lt_of_mem_split⟩
        have hrest := ih (offset + 4)
        rw [encode_three, ht]
        rw [ht] at hrest
        refine bind_eq_ok_iff.2 ⟨_, hvalues, bind_eq_ok_iff.2 ⟨_, hrest, ?_⟩⟩
        have hjoin : join (split a b c) = [a, b, c] := by simpa [join] using join_split a b c []
        rw [hjoin]
        rfl

theorem length_le_four {s : Bytes} (h : ∀ a b c d e r, s = a :: b :: c :: d :: e :: r → False) :
    s.length ≤ 4 := by
  match s with
  | [] | [_] | [_, _] | [_, _, _] | [_, _, _, _] => simp
  | a :: b :: c :: d :: e :: r => exact (h a b c d e r rfl).elim

theorem decodeFrom_eq_ok_iff {offset : Nat} {s octets : Bytes} :
    decodeFrom offset s = .ok octets ↔ s = encode octets := by
  constructor
  · intro h
    induction offset, s using decodeFrom.induct generalizing octets with
    | case1 offset a b c d e r ih =>
        rw [decodeFrom] at h
        obtain ⟨values, hvalues, h⟩ := bind_eq_ok_iff.1 h
        obtain ⟨rest, hrest, h⟩ := bind_eq_ok_iff.1 h
        obtain rfl : join values ++ rest = octets := by simpa [pure, Except.pure] using h
        obtain ⟨hsymbols, hlt⟩ := sextets_eq_ok_iff.1 hvalues
        obtain ⟨w, x, y, z, rfl⟩ : ∃ w x y z, values = [w, x, y, z] :=
          List.length_eq_four.1 (by simpa using (congrArg List.length hsymbols).symm)
        have hsplit := split_join (hlt w (by simp)) (hlt x (by simp)) (hlt y (by simp))
          (hlt z (by simp))
        have hencode : encode (join [w, x, y, z] ++ rest) =
            [w, x, y, z].map symbol ++ encode rest := by
          rw [← hsplit, ← encode_three, hsplit]
          rfl
        rw [hencode, ← hsymbols, ← ih hrest]
        rfl
    | case2 offset s hshort =>
        rw [decodeFrom] at h
        · obtain ⟨values, pads, hends, rfl, rfl⟩ := decodeLast_eq_ok_iff.1 h
          refine (hends.encode_join ?_).symm
          have hle := length_le_four hshort
          rwa [List.length_append, List.length_map, List.length_replicate] at hle
        · exact hshort
  · rintro rfl
    exact decodeFrom_encode offset octets

/-- A Base64 text stands for the octets that are written so, and no other text stands for them. -/
theorem decode_eq_ok_iff {s octets : Bytes} : decode s = .ok octets ↔ s = encode octets := by
  rw [decode]
  cases hlast : s.getLast? with
  | none =>
      obtain rfl : s = [] := List.getLast?_eq_none_iff.1 hlast
      constructor
      · rintro ⟨⟩
        rfl
      · intro h
        by_contra hne
        refine encode_ne_nil (fun hnil => hne ?_) h.symm
        rw [hnil]
  | some b =>
      dsimp only
      split
      · next hlone =>
          simp only [reduceCtorEq, false_iff]
          rintro rfl
          have hlength := length_encode octets
          omega
      · exact decodeFrom_eq_ok_iff

end SshTunnel.Base64
