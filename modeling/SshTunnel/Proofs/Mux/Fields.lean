import SshTunnel.Mux.Opening
import SshTunnel.Proofs.Mux.Frames
import SshTunnel.Proofs.Text.Utf8

/-!
# Messages are uniquely decodable

The fields of a message are read back from their octets, whatever follows. From octets that break
off before the end of a message its fields are read as far as they are complete, and the next one is
missing (`exists_readFields?_of_breaksOff`). So a message that is cut short is never taken for
another one, and the request for a channel tells its target (`fields_uniquely_decodable`).
-/

namespace SshTunnel.Mux

def BreaksOff (s whole : Bytes) : Prop :=
  s <+: whole ∧ s ≠ whole

/-- The octet strings among fields are short enough for their length to be told. -/
def AreCounted (fields : List Field) : Prop :=
  ∀ t, Field.string t ∈ fields → t.length < 2 ^ 32

/-- The host and the port that a request for a channel asks for. -/
def readTarget? (s : Bytes) : Option (String × UInt32) := do
  let (kind, s) ← readByte? s
  let (type, s) ← readText? s
  if kind ≠ openKind ∨ type ≠ "direct-tcpip" then none
  let (_, s) ← readWord? s
  let (_, s) ← readWord? s
  let (_, s) ← readWord? s
  let (host, s) ← readText? s
  let (port, _) ← readWord? s
  pure (host, port)

variable {f : Field} {fields : List Field} {kind : FieldKind} {s rest more : Bytes}
  {target target' : Target}

theorem AreCounted.head (h : AreCounted (f :: fields)) : ∀ t, f = .string t → t.length < 2 ^ 32 :=
  fun t ht => h t (ht ▸ List.mem_cons_self)

theorem AreCounted.tail (h : AreCounted (f :: fields)) : AreCounted fields :=
  fun t ht => h t (List.mem_cons_of_mem _ ht)

/-! ## Octets that break off -/

theorem FieldKind.read?_eq_some_iff : kind.read? s = some (f, rest) ↔
    f.kind = kind ∧ (∀ t, f = .string t → t.length < 2 ^ 32) ∧ s = f.encode ++ rest := by
  constructor
  · intro h
    cases kind with
    | byte =>
        obtain ⟨⟨b, rest'⟩, hread, heq⟩ := Option.map_eq_some_iff.1 h
        obtain ⟨rfl, rfl⟩ := Prod.mk.inj heq
        exact ⟨rfl, by simp, readByte?_eq_some_iff.1 hread⟩
    | word =>
        obtain ⟨⟨w, rest'⟩, hread, heq⟩ := Option.map_eq_some_iff.1 h
        obtain ⟨rfl, rfl⟩ := Prod.mk.inj heq
        exact ⟨rfl, by simp, readWord?_eq_some_iff.1 hread⟩
    | string =>
        obtain ⟨⟨t, rest'⟩, hread, heq⟩ := Option.map_eq_some_iff.1 h
        obtain ⟨rfl, rfl⟩ := Prod.mk.inj heq
        obtain ⟨hlength, rfl⟩ := readString?_eq_some_iff.1 hread
        exact ⟨rfl, by simpa using hlength, (List.append_assoc _ _ _).symm⟩
  · rintro ⟨rfl, hcounted, rfl⟩
    exact read?_encode rest hcounted

/-- Octets that break off within a field or after it: the field is missing, or it is read and the
rest breaks off. -/
theorem BreaksOff.head_cases (h : BreaksOff s (f.encode ++ more))
    (hcounted : ∀ t, f = .string t → t.length < 2 ^ 32) :
    f.kind.read? s = none ∨ ∃ rest, f.kind.read? s = some (f, rest) ∧ BreaksOff rest more := by
  obtain ⟨⟨missing, heq⟩, hne⟩ := h
  cases hread : f.kind.read? s with
  | none => exact .inl rfl
  | some found =>
      obtain ⟨f', rest⟩ := found
      obtain ⟨hkind, hcounted', rfl⟩ := FieldKind.read?_eq_some_iff.1 hread
      -- With what is missing, the same field is read off the front of both.
      have hwhole := FieldKind.read?_encode more hcounted
      rw [← heq, ← hkind, List.append_assoc, FieldKind.read?_encode _ hcounted'] at hwhole
      obtain ⟨rfl, rfl⟩ := Prod.mk.inj (Option.some.inj hwhole)
      refine .inr ⟨rest, rfl, ⟨missing, rfl⟩, fun hrest => hne ?_⟩
      rw [← hrest]

theorem readFields?_cons_of_read? {kinds : List FieldKind} (h : kind.read? s = some (f, rest)) :
    readFields? (kind :: kinds) s =
      (readFields? kinds rest).map fun (fields, s) => (f :: fields, s) := by
  cases hrest : readFields? kinds rest with
  | none => simp [readFields?, h, hrest]
  | some found => simp [readFields?, h, hrest]

theorem exists_readFields?_of_breaksOff (hcounted : AreCounted fields)
    (h : BreaksOff s (encodeFields fields)) :
    readFields? (fields.map Field.kind) s = none ∧
      ∃ done f later rest, fields = done ++ f :: later ∧
        readFields? (done.map Field.kind) s = some (done, rest) ∧ f.kind.read? rest = none := by
  induction fields generalizing s with
  | nil => exact absurd (List.prefix_nil.1 h.1) h.2
  | cons f fields ih =>
      rcases h.head_cases hcounted.head with hnone | ⟨rest, hread, hrest⟩
      · exact ⟨by simp [readFields?, hnone], [], f, fields, s, rfl, rfl, hnone⟩
      · obtain ⟨hnone, done, g, later, rest', rfl, hdone, hmissing⟩ := ih hcounted.tail hrest
        refine ⟨?_, f :: done, g, later, rest', rfl, ?_, hmissing⟩
        · rw [List.map_cons, readFields?_cons_of_read? hread, hnone]
          rfl
        · rw [List.map_cons, readFields?_cons_of_read? hread, hdone]
          rfl

/-! ## Requests for a channel -/

/-- Requests for different targets are different, also where the host is too long for its length to
be told. -/
theorem encode_channelOpen_inj
    (h : (Outbound.channelOpen target).encode = (Outbound.channelOpen target').encode) :
    target = target' := by
  have hbody := ((Spells.channelOpen target).eq_encode.trans h).trans
    (Spells.channelOpen target').eq_encode.symm
  -- The address and the port of the originator are the same, so what precedes them is.
  have htarget := List.append_cancel_right (List.append_cancel_right (List.cons.inj hbody).2)
  obtain ⟨hhost, hport⟩ := List.append_inj' htarget rfl
  obtain ⟨-, hhost⟩ := ofWord_append_inj (List.append_cancel_left hhost)
  obtain ⟨hport, -⟩ := ofWord_append_inj (congrArg (· ++ []) hport)
  cases target
  cases target'
  rw [Target.mk.injEq]
  exact ⟨Text.Utf8.ofString_inj.1 hhost, UInt16.toUInt32_inj.1 hport⟩

theorem readTarget?_encode (hhost : (Text.Utf8.ofString target.host).length < 2 ^ 32)
    (rest : Bytes) : readTarget? ((Outbound.channelOpen target).encode ++ rest) =
      some (target.host, target.port.toUInt32) := by
  have htype : (Text.Utf8.ofString "direct-tcpip").length < 2 ^ 32 := by decide
  have hbyte (b : UInt8) (s : Bytes) : readByte? ((Field.byte b).encode ++ s) = some (b, s) := rfl
  simp [readTarget?, Outbound.encode, Outbound.fields, hbyte, readText?_encode _ htype,
    readText?_encode _ hhost]

/-- Fields are read back from their octets, whatever follows, and from octets that break off as far
as they are complete, with the fault that the message is truncated. So requests for different
targets are different, and each tells its target. -/
theorem fields_uniquely_decodable :
    (∀ fields, AreCounted fields →
      (∀ rest, orTruncated (readFields? (fields.map Field.kind) (encodeFields fields ++ rest)) =
        .ok (fields, rest)) ∧
      ∀ s, BreaksOff s (encodeFields fields) →
        orTruncated (readFields? (fields.map Field.kind) s) = .error .truncated ∧
        ∃ done f later rest, fields = done ++ f :: later ∧
          readFields? (done.map Field.kind) s = some (done, rest) ∧ f.kind.read? rest = none) ∧
    Fault.truncated.message = "truncated message" ∧
    (∀ target target' : Target, target ≠ target' →
      (Outbound.channelOpen target).encode ≠ (Outbound.channelOpen target').encode) ∧
    ∀ target : Target, (Text.Utf8.ofString target.host).length < 2 ^ 32 → ∀ rest,
      readTarget? ((Outbound.channelOpen target).encode ++ rest) =
        some (target.host, target.port.toUInt32) := by
  refine ⟨fun fields hcounted => ⟨fun rest => ?_, fun s hs => ?_⟩, rfl, ?_, ?_⟩
  · rw [readFields?_encodeFields rest hcounted]
    rfl
  · obtain ⟨hnone, hread⟩ := exists_readFields?_of_breaksOff hcounted hs
    exact ⟨by rw [hnone]; rfl, hread⟩
  · intro target target' hne heq
    exact hne (encode_channelOpen_inj heq)
  · intro target hhost rest
    exact readTarget?_encode hhost rest

/-- A message breaks off within an octet string, and two requests differ in the port alone. -/
theorem fields_of_broken_string :
    orTruncated (readFields? [.byte, .string, .word] [94, 0, 0, 0, 3, 1, 2]) = .error .truncated ∧
      orTruncated (readFields? [.byte, .string, .word] [94, 0, 0, 0, 3, 1, 2, 3, 0, 0, 1, 0, 5]) =
        .ok ([.byte 94, .string [1, 2, 3], .word 256], [5]) ∧
      (Outbound.channelOpen ⟨"h1", 22⟩).encode ≠ (Outbound.channelOpen ⟨"h1", 23⟩).encode ∧
      readTarget? ((Outbound.channelOpen ⟨"h1", 22⟩).encode ++ [5]) = some ("h1", 22) := by
  obtain ⟨hfields, -, hdifferent, htarget⟩ := fields_uniquely_decodable
  have hcounted : AreCounted [.byte 94, .string [1, 2, 3], .word 256] := by
    intro t ht
    obtain rfl : t = [1, 2, 3] := by simpa using ht
    decide
  obtain ⟨hread, hbroken⟩ := hfields _ hcounted
  have hbreaks : BreaksOff [94, 0, 0, 0, 3, 1, 2]
      (encodeFields [.byte 94, .string [1, 2, 3], .word 256]) := ⟨by decide, by decide⟩
  exact ⟨(hbroken _ hbreaks).1, hread [5], hdifferent _ _ (by decide),
    htarget ⟨"h1", 22⟩ (by decide) [5]⟩

end SshTunnel.Mux
