import SshTunnel.Mux.Framing
import SshTunnel.Proofs.Mux.Layout

/-!
# Frames in a stream of octets

A frame that is not too long is told apart from what follows it, so the frames that octets begin
with are determined (`Framed.prefix_cases`). A deframer that expects nothing yet takes off the
first frame, waits while a frame is incomplete, and fails on the length of a frame that is too long
(`Deframer.next_cases`).
-/

namespace SshTunnel.Mux

variable {body body' octets more rest rest' : Bytes} {bodies bodies' : List Bytes}

theorem ofWord_append_inj {w w' : UInt32}
    (h : Bytes.ofWord w ++ rest = Bytes.ofWord w' ++ rest') : w = w' ∧ rest = rest' := by
  have hread := readWord?_ofWord_append w rest
  rw [h, readWord?_ofWord_append] at hread
  simpa [eq_comm] using hread

theorem toNat_length_of_short (h : body.length ≤ maxFrame) :
    body.length.toUInt32.toNat = body.length := by
  rw [maxFrame] at h
  exact UInt32.toNat_ofNat_of_lt' (by rw [UInt32.size]; omega)

theorem length_frame (body : Bytes) : (frame body).length = 4 + body.length := by
  simp [frame]

theorem frame_append_inj (h : body.length ≤ maxFrame) (h' : body'.length ≤ maxFrame)
    (heq : frame body ++ rest = frame body' ++ rest') : body = body' ∧ rest = rest' := by
  simp only [frame, List.append_assoc] at heq
  obtain ⟨hlength, htail⟩ := ofWord_append_inj heq
  have hsame : body.length = body'.length := by
    rw [← toNat_length_of_short h, hlength, toNat_length_of_short h']
  exact List.append_inj htail hsame

/-! ## Streams -/

/-- Octets begin with frames, none of them too long, and go on with a rest. -/
structure Framed (octets : Bytes) (bodies : List Bytes) (rest : Bytes) : Prop where
  short : ∀ body ∈ bodies, body.length ≤ maxFrame
  octets_eq : octets = bodies.flatMap frame ++ rest

namespace Framed

theorem refl (octets : Bytes) : Framed octets [] octets :=
  ⟨by simp, rfl⟩

theorem push (h : Framed octets bodies rest) (more : Bytes) :
    Framed (octets ++ more) bodies (rest ++ more) :=
  ⟨h.short, by rw [h.octets_eq, List.append_assoc]⟩

theorem snoc (h : Framed octets bodies (frame body ++ rest)) (hbody : body.length ≤ maxFrame) :
    Framed octets (bodies ++ [body]) rest where
  short := by
    intro b hb
    rcases List.mem_append.1 hb with hb | hb
    · exact h.short b hb
    · exact List.mem_singleton.1 hb ▸ hbody
  octets_eq := by simp [h.octets_eq]

/-- Two ways of taking frames off the same octets agree as far as both go. -/
theorem prefix_cases (h : Framed octets bodies rest) (h' : Framed octets bodies' rest') :
    (∃ more, bodies' = bodies ++ more ∧ Framed rest more rest') ∨
      ∃ body more, bodies = bodies' ++ body :: more ∧ Framed rest' (body :: more) rest := by
  induction bodies generalizing octets bodies' with
  | nil =>
      obtain rfl : octets = rest := by simpa using h.octets_eq
      exact .inl ⟨bodies', rfl, h'⟩
  | cons body bodies ih =>
      cases bodies' with
      | nil =>
          obtain rfl : octets = rest' := by simpa using h'.octets_eq
          exact .inr ⟨body, bodies, rfl, h⟩
      | cons body' bodies' =>
          have heq : frame body ++ (bodies.flatMap frame ++ rest) =
              frame body' ++ (bodies'.flatMap frame ++ rest') := by
            simpa using h.octets_eq.symm.trans h'.octets_eq
          obtain ⟨rfl, htail⟩ := frame_append_inj (h.short body List.mem_cons_self)
            (h'.short body' List.mem_cons_self) heq
          have hshort : ∀ b ∈ bodies, b.length ≤ maxFrame :=
            fun b hb => h.short b (List.mem_cons_of_mem _ hb)
          have hshort' : ∀ b ∈ bodies', b.length ≤ maxFrame :=
            fun b hb => h'.short b (List.mem_cons_of_mem _ hb)
          obtain ⟨more, rfl, hmore⟩ | ⟨b, more, rfl, hmore⟩ :=
            ih ⟨hshort, rfl⟩ ⟨hshort', htail⟩
          · exact .inl ⟨more, rfl, hmore⟩
          · exact .inr ⟨b, more, rfl, hmore⟩

end Framed

/-- A frame has begun, or may begin, but has not arrived whole. -/
inductive Incomplete : Bytes → Prop
  | length {octets : Bytes} (short : octets.length < 4) : Incomplete octets
  | body {n : UInt32} {begun : Bytes} (fits : n.toNat ≤ maxFrame)
      (short : begun.length < n.toNat) : Incomplete (Bytes.ofWord n ++ begun)

/-- Octets begin with the length of a frame that is too long. -/
def Oversized (octets : Bytes) : Prop :=
  ∃ n rest, maxFrame < n.toNat ∧ octets = Bytes.ofWord n ++ rest

theorem Incomplete.not_frame (h : Incomplete octets) (hbody : body.length ≤ maxFrame) :
    octets ≠ frame body ++ rest := by
  intro heq
  cases h with
  | length short =>
      rw [heq, List.length_append, length_frame] at short
      omega
  | body fits short =>
      simp only [frame, List.append_assoc] at heq
      obtain ⟨rfl, rfl⟩ := ofWord_append_inj heq
      rw [toNat_length_of_short hbody, List.length_append] at short
      omega

theorem Oversized.not_frame (h : Oversized octets) (hbody : body.length ≤ maxFrame) :
    octets ≠ frame body ++ rest := by
  rintro rfl
  obtain ⟨n, tail, hn, heq⟩ := h
  simp only [frame, List.append_assoc] at heq
  obtain ⟨rfl, -⟩ := ofWord_append_inj heq
  rw [toNat_length_of_short hbody] at hn
  omega

theorem Incomplete.not_oversized (h : Incomplete octets) : ¬ Oversized octets := by
  rintro ⟨n, rest, hn, heq⟩
  cases h with
  | length short =>
      rw [heq, List.length_append, Bytes.length_ofWord] at short
      omega
  | body fits short =>
      obtain ⟨rfl, -⟩ := ofWord_append_inj heq
      omega

theorem Oversized.push (h : Oversized octets) (more : Bytes) : Oversized (octets ++ more) := by
  obtain ⟨n, rest, hn, rfl⟩ := h
  exact ⟨n, rest ++ more, hn, List.append_assoc _ _ _⟩

/-! ## Deframers -/

namespace Deframer

theorem readLength_ofWord (n : UInt32) (rest : Bytes) :
    readLength ⟨none, Bytes.ofWord n ++ rest⟩ =
      if maxFrame < n.toNat then .error .frameTooLong else .ok ⟨some n.toNat, rest⟩ := by
  simp only [Bytes.ofWord, List.cons_append, List.nil_append, readLength]
  rw [Bytes.word_ofWord]

theorem next_of_fits {n : UInt32} (h : n.toNat ≤ maxFrame) (begun : Bytes) :
    next ⟨none, Bytes.ofWord n ++ begun⟩ =
      match Bytes.take? n.toNat begun with
      | some (body, rest) => .ok (some body, ⟨none, rest⟩)
      | none => .ok (none, ⟨some n.toNat, begun⟩) := by
  rw [next, readLength_ofWord, if_neg (Nat.not_lt.2 h)]
  rfl

/-- What a deframer that expects nothing yet makes of the octets that have arrived. -/
theorem next_cases {d : Deframer} (h : d.expected = none) :
    (∃ body rest, body.length ≤ maxFrame ∧ d.pending = frame body ++ rest ∧
        d.next = .ok (some body, ⟨none, rest⟩)) ∨
      (Incomplete d.pending ∧ ∃ d', d.next = .ok (none, d')) ∨
      Oversized d.pending ∧ d.next = .error .frameTooLong := by
  obtain ⟨expected, pending⟩ := d
  subst h
  dsimp only
  cases hword : readWord? pending with
  | none =>
      refine .inr (.inl ?_)
      match pending, hword with
      | [], _ | [_], _ | [_, _], _ | [_, _, _], _ => exact ⟨.length (by simp), _, rfl⟩
  | some read =>
      obtain ⟨n, begun⟩ := read
      obtain rfl := readWord?_eq_some_iff.1 hword
      rcases Nat.lt_or_ge maxFrame n.toNat with hlong | hfits
      · refine .inr (.inr ⟨⟨n, begun, hlong, rfl⟩, ?_⟩)
        rw [next, readLength_ofWord, if_pos hlong]
        rfl
      · rw [next_of_fits hfits]
        cases htake : Bytes.take? n.toNat begun with
        | none => exact .inr (.inl ⟨.body hfits (Bytes.take?_eq_none_iff.1 htake), _, rfl⟩)
        | some taken =>
            obtain ⟨body, rest⟩ := taken
            obtain ⟨hlength, rfl⟩ := Bytes.take?_eq_some_iff.1 htake
            exact .inl ⟨body, rest, hlength ▸ hfits, by simp [frame, hlength], rfl⟩

end Deframer

end SshTunnel.Mux
