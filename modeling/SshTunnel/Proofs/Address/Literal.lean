import Mathlib.Data.Nat.Digits.Defs
import SshTunnel.IpAddress
import SshTunnel.Proofs.Text.Cuts
import SshTunnel.Proofs.Text.Numeral

/-!
# The spelling of addresses

An address of four octets is spelled by four decimal numbers, one of sixteen octets by groups of
hexadecimal digits, of which two colons may leave some out (`Spells`). `parse?` reads the texts that
spell an address, and no others (`parse?_eq_some_iff`).
-/

namespace SshTunnel.IpAddress

/-! ## Spellings -/

def decimal (b : UInt8) : List Char :=
  Nat.toDigits 10 b.toNat

/-- Four decimal numbers with points between them. -/
inductive Dotted : List Char → Bytes → Prop
  | mk (a b c d : UInt8) :
      Dotted (decimal a ++ '.' :: (decimal b ++ '.' :: (decimal c ++ '.' :: decimal d)))
        [a, b, c, d]

/-- One to four hexadecimal digits, and the two octets of their number. -/
inductive Group : List Char → Bytes → Prop
  | mk {s : List Char} {values : List Nat} (digits : s.map hexValue? = values.map some)
      (nonempty : s ≠ []) (short : s.length ≤ 4) :
      Group s [(Nat.ofDigits 16 values.reverse / 256).toUInt8,
        (Nat.ofDigits 16 values.reverse % 256).toUInt8]

def mark (colon : Bool) : List Char :=
  if colon then [':'] else []

/-- Groups, each after a colon, the first perhaps without it. Decimal numbers may stand last. -/
inductive Groups : (colon decimal : Bool) → List Char → Bytes → Prop
  | nil (colon : Bool) : Groups colon false [] []
  | dotted (colon : Bool) {s : List Char} {a : Bytes} (numbers : Dotted s a) :
      Groups colon true (mark colon ++ s) a
  | group (colon : Bool) {decimal : Bool} {s t : List Char} {a b : Bytes} (first : Group s a)
      (more : Groups true decimal t b) : Groups colon decimal (mark colon ++ (s ++ t)) (a ++ b)

/-- The texts that spell an address. Two colons stand for as many zeros as are missing. -/
inductive Spells : List Char → IpAddress → Prop
  | v4 {s : List Char} {a : Bytes} (numbers : Dotted s a) : Spells s (.v4 a)
  | v6 {decimal : Bool} {s : List Char} {a : Bytes} (groups : Groups false decimal s a)
      (length : a.length = 16) : Spells s (.v6 a)
  | zeros {decimal : Bool} {s t : List Char} {a b : Bytes} (front : Groups false false s a)
      (back : Groups false decimal t b) (length : a.length + b.length ≤ 14) :
      Spells (s ++ ':' :: ':' :: t) (.v6 (a ++ List.replicate (16 - a.length - b.length) 0 ++ b))

variable {s t rest : List Char} {a : Bytes}

theorem Dotted.length_eq (h : Dotted s a) : a.length = 4 := by
  cases h
  rfl

theorem Group.length_eq (h : Group s a) : a.length = 2 := by
  cases h
  rfl

theorem Groups.even_length {colon decimal : Bool} (h : Groups colon decimal s a) :
    a.length % 2 = 0 := by
  induction h with
  | nil => rfl
  | dotted colon numbers => rw [numbers.length_eq]
  | group colon first more ih => rw [List.length_append, first.length_eq, Nat.add_mod, ih]

/-! ## Where reading stops -/

/-- No character of a class comes next. -/
def Ends (p : Char → Bool) (s : List Char) : Prop :=
  ∀ c, s.head? = some c → p c = false

theorem Ends.cons {p : Char → Bool} {c : Char} (h : p c = false) (s : List Char) :
    Ends p (c :: s) := by
  rintro d hd
  rw [← Option.some.inj hd, h]

theorem takeWhile_append_of_ends {p : Char → Bool} (hs : ∀ c ∈ s, p c = true)
    (hrest : Ends p rest) : (s ++ rest).takeWhile p = s := by
  rw [List.takeWhile_append_of_pos hs]
  cases rest with
  | nil => simp
  | cons c rest => simp [hrest c rfl]

theorem exists_run (p : Char → Bool) (s : List Char) :
    ∃ t rest, s = t ++ rest ∧ (∀ c ∈ t, p c = true) ∧ Ends p rest := by
  refine ⟨s.takeWhile p, s.dropWhile p, List.takeWhile_append_dropWhile.symm,
    fun c hc => List.mem_takeWhile_imp hc, fun c hc => Text.eq_false_of_head?_dropWhile hc⟩

def isHex (c : Char) : Bool :=
  (hexValue? c).isSome

theorem isHex_of_isDigit {c : Char} (h : Text.isDigit c = true) : isHex c = true := by
  rw [isHex, hexValue?, if_pos h]
  rfl

theorem skip_eq_some_iff {c : Char} : skip c s = some t ↔ s = c :: t := by
  cases s with
  | nil => simp [skip]
  | cons d s => by_cases h : d = c <;> simp [skip, h]

/-! ## Decimal numbers -/

theorem isDigit_of_mem_decimal {b : UInt8} : ∀ c ∈ decimal b, Text.isDigit c = true :=
  fun _ hc => Text.isDigit_of_mem_toDigits hc

theorem digitsValue_decimal (b : UInt8) : Text.digitsValue 0 (decimal b) = b.toNat :=
  Nat.ofDigitChars_ten_toDigits

theorem length_decimal_le (b : UInt8) : (decimal b).length ≤ 3 := by
  have hlt := b.toNat_lt
  exact (Nat.length_toDigits_le_iff (by decide) (by decide)).2 (by omega)

theorem head?_decimal (b : UInt8) : (decimal b).head? ≠ some '0' ∨ (decimal b).length = 1 := by
  rcases Nat.eq_zero_or_pos b.toNat with hzero | hpos
  · right
    rw [decimal, hzero]
    rfl
  · exact .inl (Text.head?_toDigits_ne_zero hpos)

theorem readOctet_append (hs : ∀ c ∈ s, Text.isDigit c = true) (hrest : Ends Text.isDigit rest) :
    readOctet (s ++ rest) =
      if s ≠ [] ∧ s.length ≤ 3 ∧ (s.head? ≠ some '0' ∨ s.length = 1) ∧
          Text.digitsValue 0 s < 256 then
        some ((Text.digitsValue 0 s).toUInt8, rest)
      else none := by
  rw [readOctet, takeWhile_append_of_ends hs hrest, List.drop_left]

theorem readOctet_eq_some_iff {b : UInt8} : readOctet s = some (b, rest) ↔
    s = decimal b ++ rest ∧ Ends Text.isDigit rest := by
  constructor
  · intro h
    obtain ⟨digits, rest', rfl, hdigits, hrest⟩ := exists_run Text.isDigit s
    rw [readOctet_append hdigits hrest] at h
    split at h
    · next hread =>
        obtain ⟨hne, -, hzero, hlt⟩ := hread
        obtain ⟨rfl, rfl⟩ := Prod.mk.inj (Option.some.inj h)
        have hnumber : (Text.digitsValue 0 digits).toUInt8.toNat = Text.digitsValue 0 digits :=
          UInt8.toNat_ofNat_of_lt' hlt
        refine ⟨?_, hrest⟩
        rw [decimal, hnumber, Text.toDigits_digitsValue hne hdigits
          (fun hhead => hzero.resolve_left (not_not.2 hhead))]
    · cases h
  · rintro ⟨rfl, hrest⟩
    have hlt : Text.digitsValue 0 (decimal b) < 256 := by
      rw [digitsValue_decimal]
      exact b.toNat_lt
    rw [readOctet_append isDigit_of_mem_decimal hrest,
      if_pos ⟨Nat.toDigits_ne_nil, length_decimal_le b, head?_decimal b, hlt⟩,
      digitsValue_decimal, Nat.toUInt8_eq, UInt8.ofNat_toNat]

theorem readV4_eq_some_iff : readV4 s = some (a, rest) ↔
    ∃ t, Dotted t a ∧ s = t ++ rest ∧ Ends Text.isDigit rest := by
  have hpoint (s : List Char) : Ends Text.isDigit ('.' :: s) := .cons (by decide) s
  simp only [readV4, Option.bind_eq_bind, Option.bind_eq_some_iff, Option.pure_def, Prod.exists,
    readOctet_eq_some_iff, skip_eq_some_iff]
  constructor
  · rintro ⟨a, _, ⟨rfl, -⟩, _, rfl, b, _, ⟨rfl, -⟩, _, rfl, c, _, ⟨rfl, -⟩, _, rfl, d, _,
      ⟨rfl, hrest⟩, h⟩
    obtain ⟨rfl, rfl⟩ := Prod.mk.inj (Option.some.inj h)
    exact ⟨_, .mk a b c d, by simp, hrest⟩
  · rintro ⟨t, ⟨a, b, c, d⟩, rfl, hrest⟩
    refine ⟨a, _, ⟨by rw [List.append_assoc, List.cons_append], hpoint _⟩, _, rfl,
      b, _, ⟨by rw [List.append_assoc, List.cons_append], hpoint _⟩, _, rfl,
      c, _, ⟨by rw [List.append_assoc, List.cons_append], hpoint _⟩, _, rfl,
      d, rest, ⟨rfl, hrest⟩, rfl⟩

/-! ## Groups -/

/-- Hexadecimal digits write the number that is made of their values. -/
theorem foldl_hexValue? {values : List Nat} (h : s.map hexValue? = values.map some) (start : Nat) :
    s.foldl (fun n c => 16 * n + (hexValue? c).getD 0) start =
      values.foldl (fun n v => 16 * n + v) start := by
  induction s generalizing values start with
  | nil =>
      obtain rfl : values = [] := by simpa using h.symm
      rfl
  | cons c s ih =>
      cases values with
      | nil => simp at h
      | cons v values =>
          obtain ⟨hc, hs⟩ := List.cons.inj h
          rw [List.foldl_cons, List.foldl_cons, hc, ih hs]
          rfl

theorem foldl_eq_ofDigits (values : List Nat) :
    values.foldl (fun n v => 16 * n + v) 0 = Nat.ofDigits 16 values.reverse := by
  rw [Nat.ofDigits_eq_foldr, List.foldr_reverse]
  simp only [Nat.cast_id, Nat.add_comm]

theorem isHex_of_map_hexValue? {values : List Nat} (h : s.map hexValue? = values.map some) :
    ∀ c ∈ s, isHex c = true := by
  intro c hc
  obtain ⟨v, -, hv⟩ : ∃ v ∈ values, some v = hexValue? c := by
    rw [← List.mem_map, ← h]
    exact List.mem_map_of_mem hc
  rw [isHex, ← hv]
  rfl

theorem readGroup_append (hs : ∀ c ∈ s, isHex c = true) (hrest : Ends isHex rest) :
    readGroup (s ++ rest) =
      let n := s.foldl (fun n c => 16 * n + (hexValue? c).getD 0) 0
      if s ≠ [] ∧ s.length ≤ 4 then some ([(n / 256).toUInt8, (n % 256).toUInt8], rest)
      else none := by
  rw [readGroup, show (s ++ rest).takeWhile (fun c => (hexValue? c).isSome) = s from
    takeWhile_append_of_ends hs hrest, List.drop_left]

theorem readGroup_eq_some_iff : readGroup s = some (a, rest) ↔
    ∃ t, Group t a ∧ s = t ++ rest ∧ Ends isHex rest := by
  constructor
  · intro h
    obtain ⟨digits, rest', rfl, hdigits, hrest⟩ := exists_run isHex s
    rw [readGroup_append hdigits hrest] at h
    dsimp only at h
    split at h
    · next hread =>
        have hvalues : digits.map hexValue? =
            (digits.map fun c => (hexValue? c).getD 0).map some := by
          rw [List.map_map]
          refine List.map_congr_left fun c hc => ?_
          obtain ⟨v, hv⟩ := Option.isSome_iff_exists.1 (hdigits c hc)
          simp [hv]
        rw [foldl_hexValue? hvalues, foldl_eq_ofDigits] at h
        obtain ⟨rfl, rfl⟩ := Prod.mk.inj (Option.some.inj h)
        exact ⟨digits, .mk hvalues hread.1 hread.2, rfl, hrest⟩
    · cases h
  · rintro ⟨t, ⟨hdigits, hne, hshort⟩, rfl, hrest⟩
    rw [readGroup_append (isHex_of_map_hexValue? hdigits) hrest, foldl_hexValue? hdigits,
      foldl_eq_ofDigits]
    exact if_pos ⟨hne, hshort⟩

theorem Dotted.exists_decimal (h : Dotted s a) : ∃ b t, s = decimal b ++ '.' :: t := by
  cases h
  exact ⟨_, _, rfl⟩

theorem Group.digits (h : Group s a) : ∀ c ∈ s, isHex c = true := by
  cases h with
  | mk digits => exact isHex_of_map_hexValue? digits

theorem Group.ne_nil (h : Group s a) : s ≠ [] := by
  cases h with
  | mk digits nonempty => exact nonempty

/-- A group without a point after it is not the first of four decimal numbers. -/
theorem Group.readV4_append (h : Group s a) (hrest : Ends isHex rest)
    (hpoint : rest.head? ≠ some '.') : readV4 (s ++ rest) = none := by
  by_contra hsome
  obtain ⟨⟨octets, left⟩, hread⟩ := Option.ne_none_iff_exists'.1 hsome
  obtain ⟨t, hdotted, heq, -⟩ := readV4_eq_some_iff.1 hread
  obtain ⟨b, t, rfl⟩ := hdotted.exists_decimal
  rw [List.append_assoc, List.cons_append] at heq
  -- The group and the first number are both the digits up to what is no digit.
  have hdigits : (s ++ rest).takeWhile isHex = decimal b := by
    rw [heq]
    exact takeWhile_append_of_ends (fun c hc => isHex_of_isDigit (isDigit_of_mem_decimal c hc))
      (.cons (by decide) _)
  rw [takeWhile_append_of_ends h.digits hrest] at hdigits
  subst hdigits
  rw [List.append_cancel_left heq] at hpoint
  exact hpoint rfl

theorem readV4_eq_none (h : Ends isHex s) : readV4 s = none := by
  by_contra hsome
  obtain ⟨⟨octets, left⟩, hread⟩ := Option.ne_none_iff_exists'.1 hsome
  obtain ⟨t, hdotted, rfl, -⟩ := readV4_eq_some_iff.1 hread
  obtain ⟨b, t, rfl⟩ := hdotted.exists_decimal
  obtain ⟨c, digits, hdigits⟩ := List.exists_cons_of_ne_nil (Nat.toDigits_ne_nil (b := 10)
    (n := b.toNat))
  have hc : isHex c = true :=
    isHex_of_isDigit (isDigit_of_mem_decimal (b := b) c (by simp [decimal, hdigits]))
  rw [h c (by simp [decimal, hdigits])] at hc
  cases hc

theorem readGroup_eq_none (h : Ends isHex s) : readGroup s = none := by
  by_contra hsome
  obtain ⟨⟨octets, left⟩, hread⟩ := Option.ne_none_iff_exists'.1 hsome
  obtain ⟨t, hgroup, rfl, -⟩ := readGroup_eq_some_iff.1 hread
  obtain ⟨c, digits, rfl⟩ := List.exists_cons_of_ne_nil hgroup.ne_nil
  have hc := hgroup.digits c List.mem_cons_self
  rw [h c rfl] at hc
  cases hc

/-! ## Rows of groups -/

def FollowsGroups (s : List Char) : Prop :=
  s = [] ∨ ∃ t, s = ':' :: ':' :: t

variable {colon decimal : Bool} {b : Bytes}

theorem ends_isHex_of_colon (h : ∀ c, s.head? = some c → c = ':') : Ends isHex s := by
  intro c hc
  rw [h c hc]
  decide

theorem FollowsGroups.eq_colon (h : FollowsGroups s) : ∀ c, s.head? = some c → c = ':' := by
  rintro c hc
  obtain rfl | ⟨t, rfl⟩ := h
  · cases hc
  · exact (Option.some.inj hc).symm

theorem Groups.eq_colon (h : Groups true decimal t b) (hrest : FollowsGroups rest) :
    ∀ c, (t ++ rest).head? = some c → c = ':' := by
  cases h with
  | nil => exact hrest.eq_colon
  | dotted => exact fun c hc => (Option.some.inj hc).symm
  | group => exact fun c hc => (Option.some.inj hc).symm

theorem readGroups_mark (room : Nat) (colon : Bool) (s : List Char) :
    readGroups (room + 1) colon (mark colon ++ s) =
      match if 0 < room then readV4 s else none with
      | some (octets, rest) => (octets, true, rest)
      | none =>
          match readGroup s with
          | some (octets, rest) =>
              let (more, decimal, rest) := readGroups room true rest
              (octets ++ more, decimal, rest)
          | none => ([], false, mark colon ++ s) := by
  cases colon <;> rfl

theorem readGroups_of_ends (room : Nat) (colon : Bool) (h : Ends isHex s) :
    readGroups (room + 1) colon (mark colon ++ s) = ([], false, mark colon ++ s) := by
  rw [readGroups_mark, readV4_eq_none h, readGroup_eq_none h, ite_self]

theorem FollowsGroups.readGroups_eq (h : FollowsGroups s) (room : Nat) (colon : Bool) :
    readGroups room colon s = ([], false, s) := by
  cases room with
  | zero => rfl
  | succ room =>
      cases colon with
      | false => exact readGroups_of_ends room false (ends_isHex_of_colon h.eq_colon)
      | true =>
          obtain rfl | ⟨t, rfl⟩ := h
          · simp [readGroups, skip]
          · exact readGroups_of_ends room true (.cons (by decide) t)

theorem Groups.readGroups_append (h : Groups colon decimal s a) (hrest : FollowsGroups rest)
    (room : Nat) (hroom : a.length ≤ 2 * room) :
    readGroups room colon (s ++ rest) = (a, decimal, rest) := by
  induction h generalizing room with
  | nil colon => exact hrest.readGroups_eq room colon
  | dotted colon numbers =>
      have hread := readV4_eq_some_iff.2 ⟨_, numbers, rfl, fun c hc => by
        rw [hrest.eq_colon c hc]
        decide⟩
      rw [numbers.length_eq] at hroom
      obtain ⟨room, rfl⟩ := Nat.exists_eq_succ_of_ne_zero (show room ≠ 0 by omega)
      rw [List.append_assoc, readGroups_mark, if_pos (by omega), hread]
  | @group colon decimal s t a b first more ih =>
      have hcolon := more.eq_colon hrest
      have hread : readGroup (s ++ (t ++ rest)) = some (a, t ++ rest) :=
        readGroup_eq_some_iff.2 ⟨_, first, rfl, ends_isHex_of_colon hcolon⟩
      -- Decimal numbers are tried before a group.
      have hv4 : readV4 (s ++ (t ++ rest)) = none :=
        first.readV4_append (ends_isHex_of_colon hcolon) fun hpoint => by
          have := hcolon '.' hpoint
          simp at this
      rw [List.length_append, first.length_eq] at hroom
      obtain ⟨room, rfl⟩ := Nat.exists_eq_succ_of_ne_zero (show room ≠ 0 by omega)
      rw [List.append_assoc, List.append_assoc, readGroups_mark, hv4, hread, ite_self]
      dsimp only
      rw [ih room (by omega)]

theorem exists_groups_of_readGroups {room : Nat}
    (h : readGroups room colon s = (a, decimal, rest)) :
    ∃ t, Groups colon decimal t a ∧ s = t ++ rest ∧ a.length ≤ 2 * room := by
  induction room generalizing colon s a decimal rest with
  | zero =>
      obtain ⟨rfl, rfl, rfl⟩ : [] = a ∧ false = decimal ∧ s = rest := by simpa [readGroups] using h
      exact ⟨[], .nil colon, rfl, le_refl 0⟩
  | succ room ih =>
      by_cases hmark : ∃ t, s = mark colon ++ t
      · obtain ⟨s, rfl⟩ := hmark
        rw [readGroups_mark] at h
        split at h
        · next octets rest' hread =>
            obtain ⟨rfl, rfl, rfl⟩ : octets = a ∧ true = decimal ∧ rest' = rest := by simpa using h
            rw [Option.ite_none_right_eq_some] at hread
            obtain ⟨hroom, hread⟩ := hread
            obtain ⟨t, hdotted, rfl, -⟩ := readV4_eq_some_iff.1 hread
            refine ⟨_, .dotted colon hdotted, (List.append_assoc _ _ _).symm, ?_⟩
            rw [hdotted.length_eq]
            omega
        · split at h
          · next octets rest' hread =>
              obtain ⟨t, hgroup, rfl, -⟩ := readGroup_eq_some_iff.1 hread
              rcases hmore : readGroups room true rest' with ⟨more, decimal', rest''⟩
              rw [hmore] at h
              obtain ⟨rfl, rfl, rfl⟩ : octets ++ more = a ∧ decimal' = decimal ∧ rest'' = rest := by
                simpa using h
              obtain ⟨u, hgroups, rfl, hlength⟩ := ih hmore
              refine ⟨_, .group colon hgroup hgroups, by simp only [List.append_assoc], ?_⟩
              rw [List.length_append, hgroup.length_eq]
              omega
          · obtain ⟨rfl, rfl, rfl⟩ : [] = a ∧ false = decimal ∧ mark colon ++ s = rest := by
              simpa using h
            exact ⟨[], .nil colon, rfl, Nat.zero_le _⟩
      · -- A row ends where the colon is missing that it waits for.
        have hskip : (if colon then skip ':' s else some s) = none := by
          by_contra hsome
          obtain ⟨t, ht⟩ := Option.ne_none_iff_exists'.1 hsome
          refine hmark ⟨t, ?_⟩
          cases colon with
          | false => exact Option.some.inj ht
          | true => exact skip_eq_some_iff.1 ht
        obtain ⟨rfl, rfl, rfl⟩ : [] = a ∧ false = decimal ∧ s = rest := by
          simpa [readGroups, hskip] using h
        exact ⟨[], .nil colon, rfl, Nat.zero_le _⟩

/-! ## Whole addresses -/

theorem readV6_of_spells (h : Spells s (.v6 a)) : readV6 s = some (a, []) := by
  have hend : FollowsGroups [] := .inl rfl
  cases h with
  | v6 groups length =>
      have hread := groups.readGroups_append hend 8 (by omega)
      rw [List.append_nil] at hread
      rw [readV6, hread]
      dsimp only
      rw [if_pos length]
  | @zeros decimal s t a b front back length =>
      have hfront := front.readGroups_append (.inr ⟨t, rfl⟩) 8 (by omega)
      have heven := front.even_length
      have hback := back.readGroups_append hend (7 - a.length / 2) (by omega)
      rw [List.append_nil] at hback
      rw [readV6, hfront]
      dsimp only
      rw [if_neg (by omega), if_neg (by decide), skip_eq_some_iff.2 rfl]
      simp only [Option.bind_eq_bind, Option.bind_some, skip_eq_some_iff.2 rfl, hback]
      rfl

theorem spells_of_readV6 (h : readV6 s = some (a, [])) : Spells s (.v6 a) := by
  rw [readV6] at h
  rcases hfront : readGroups 8 false s with ⟨front, decimal, rest⟩
  obtain ⟨t, hgroups, rfl, hroom⟩ := exists_groups_of_readGroups hfront
  rw [hfront] at h
  dsimp only at h
  split at h
  · next hlength =>
      obtain ⟨rfl, rfl⟩ := Prod.mk.inj (Option.some.inj h)
      rw [List.append_nil]
      exact .v6 hgroups hlength
  split at h
  · cases h
  · next hlength hdecimal =>
      obtain ⟨s', hs', hrest⟩ := Option.bind_eq_some_iff.1 h
      obtain ⟨u, hu, hread⟩ := Option.bind_eq_some_iff.1 hrest
      obtain rfl := skip_eq_some_iff.1 hs'
      obtain rfl := skip_eq_some_iff.1 hu
      rcases hback : readGroups (7 - front.length / 2) false u with ⟨back, decimal', rest'⟩
      obtain ⟨v, hgroups', rfl, hroom'⟩ := exists_groups_of_readGroups hback
      rw [hback] at hread
      obtain ⟨rfl, rfl⟩ := Prod.mk.inj (Option.some.inj hread)
      have heven := hgroups.even_length
      rw [Bool.not_eq_true] at hdecimal
      subst hdecimal
      have hroom : front.length + back.length ≤ 14 := by omega
      rw [List.append_nil]
      exact .zeros hgroups hgroups' hroom

theorem colon_mem_of_spells (h : Spells s (.v6 a)) : ':' ∈ s := by
  cases h with
  | v6 groups length =>
      cases groups with
      | nil => simp at length
      | dotted colon numbers => simp [numbers.length_eq] at length
      | group colon first more =>
          rw [List.length_append, first.length_eq] at length
          cases more with
          | nil => simp at length
          | dotted => simp [mark]
          | group => simp [mark]
  | zeros => simp

theorem length_of_spells_v4 (h : Spells s (.v4 a)) : a.length = 4 := by
  cases h with
  | v4 numbers => exact numbers.length_eq

theorem length_of_spells_v6 (h : Spells s (.v6 a)) : a.length = 16 := by
  cases h with
  | v6 groups length => exact length
  | zeros front back length =>
      rw [List.length_append, List.length_append, List.length_replicate]
      omega

theorem Dotted.colon_not_mem (h : Dotted s a) : ':' ∉ s := by
  have hdecimal (b : UInt8) : ':' ∉ IpAddress.decimal b :=
    Text.not_mem_toDigits b.toNat (by decide)
  cases h
  simp [hdecimal]

theorem parse?_eq_some_iff {address : IpAddress} : parse? s = some address ↔ Spells s address := by
  have hend : Ends Text.isDigit [] := fun c hc => by cases hc
  have hv4 (a : Bytes) : readV4 s = some (a, []) ↔ Dotted s a := by
    rw [readV4_eq_some_iff]
    constructor
    · rintro ⟨t, hdotted, rfl, -⟩
      rwa [List.append_nil]
    · intro hdotted
      exact ⟨s, hdotted, (List.append_nil s).symm, hend⟩
  rw [parse?]
  constructor
  · intro h
    split at h
    · next octets hread =>
        obtain rfl := Option.some.inj h
        exact .v4 ((hv4 octets).1 hread)
    · split at h
      · next octets hread =>
          obtain rfl := Option.some.inj h
          exact spells_of_readV6 hread
      · cases h
  · intro h
    cases address with
    | v4 a =>
        cases h with
        | v4 numbers => rw [(hv4 a).2 numbers]
    | v6 a =>
        split
        · -- Four decimal numbers are tried first, but there is a colon in the text.
          next octets hread =>
            exact absurd (colon_mem_of_spells h) ((hv4 octets).1 hread).colon_not_mem
        · rw [readV6_of_spells h]

end SshTunnel.IpAddress
