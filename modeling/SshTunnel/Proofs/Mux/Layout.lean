import SshTunnel.Mux.Message
import SshTunnel.Proofs.Bytes.Words
import SshTunnel.Proofs.Except

/-!
# What frames carry

`Carries body m` lays out a frame that carries a message of the master: its fields one after the
other, then octets that are not looked at. A frame is read as a message just if it carries it
(`ofFrame_eq_ok_iff`). So a frame carries one message at most, and one that carries none is
malformed. `Spells body m` lays out a message of the client octet by octet, and what is sent is
laid out in this way (`spells_iff`).
-/

namespace SshTunnel.Mux

/-! ## Fields -/

theorem readByte?_eq_some_iff {s rest : Bytes} {b : UInt8} :
    readByte? s = some (b, rest) ↔ s = b :: rest := by
  cases s with
  | nil => simp [readByte?]
  | cons c s => simp [readByte?]

@[simp] theorem readWord?_ofWord_append (w : UInt32) (rest : Bytes) :
    readWord? (Bytes.ofWord w ++ rest) = some (w, rest) := by
  simp only [Bytes.ofWord, List.cons_append, List.nil_append, readWord?]
  rw [Bytes.word_ofWord]

theorem readWord?_eq_some_iff {s rest : Bytes} {w : UInt32} :
    readWord? s = some (w, rest) ↔ s = Bytes.ofWord w ++ rest := by
  constructor
  · intro h
    match s, h with
    | a :: b :: c :: d :: s, h =>
        obtain ⟨rfl, rfl⟩ : Bytes.word a b c d = w ∧ s = rest := by simpa [readWord?] using h
        rw [Bytes.ofWord_word]
        rfl
  · rintro rfl
    exact readWord?_ofWord_append w rest

theorem readString?_eq_some_iff {s t rest : Bytes} :
    readString? s = some (t, rest) ↔
      t.length < 2 ^ 32 ∧ s = Bytes.ofWord t.length.toUInt32 ++ (t ++ rest) := by
  have hread (n : UInt32) (s : Bytes) :
      readString? (Bytes.ofWord n ++ s) = Bytes.take? n.toNat s := by
    simp [readString?]
  constructor
  · intro h
    obtain ⟨⟨n, s'⟩, hword, htake⟩ := Option.bind_eq_some_iff.1 h
    obtain ⟨hlength, rfl⟩ := Bytes.take?_eq_some_iff.1 htake
    obtain rfl := readWord?_eq_some_iff.1 hword
    have hn : n = t.length.toUInt32 := by simp [hlength]
    exact ⟨hlength ▸ n.toNat_lt, by rw [hn]⟩
  · rintro ⟨hlength, rfl⟩
    rw [hread, Bytes.take?_eq_some_iff]
    exact ⟨(UInt32.toNat_ofNat_of_lt' hlength).symm, rfl⟩

theorem readText?_eq_some_iff {s rest : Bytes} {text : String} :
    readText? s = some (text, rest) ↔
      ∃ t, readString? s = some (t, rest) ∧ text = String.ofList (Text.Utf8.decodeLossy t) := by
  simp only [readText?, Option.bind_eq_bind, Option.pure_def, Option.bind_eq_some_iff,
    Prod.exists, Option.some.injEq, Prod.mk.injEq]
  constructor
  · rintro ⟨t, _, h, rfl, rfl⟩
    exact ⟨t, h, rfl⟩
  · rintro ⟨t, h, rfl⟩
    exact ⟨t, rest, h, rfl, rfl⟩

theorem readFlag?_eq_some_iff {s rest : Bytes} {flag : Bool} :
    readFlag? s = some (flag, rest) ↔ ∃ b : UInt8, s = b :: rest ∧ flag = decide (b ≠ 0) := by
  simp only [readFlag?, Option.bind_eq_bind, Option.pure_def, Option.bind_eq_some_iff,
    Prod.exists, readByte?_eq_some_iff, Option.some.injEq, Prod.mk.injEq]
  constructor
  · rintro ⟨b, _, rfl, rfl, rfl⟩
    exact ⟨b, rfl, rfl⟩
  · rintro ⟨b, rfl, rfl⟩
    exact ⟨b, rest, rfl, rfl, rfl⟩

section Encode

variable (rest : Bytes)

@[simp] theorem readWord?_encode (w : UInt32) :
    readWord? ((Field.word w).encode ++ rest) = some (w, rest) :=
  readWord?_ofWord_append w rest

theorem readString?_encode {t : Bytes} (h : t.length < 2 ^ 32) :
    readString? ((Field.string t).encode ++ rest) = some (t, rest) :=
  readString?_eq_some_iff.2 ⟨h, List.append_assoc _ _ _⟩

theorem readText?_encode {t : Bytes} (h : t.length < 2 ^ 32) :
    readText? ((Field.string t).encode ++ rest) =
      some (String.ofList (Text.Utf8.decodeLossy t), rest) :=
  readText?_eq_some_iff.2 ⟨t, readString?_encode rest h, rfl⟩

@[simp] theorem readFlag?_encode (b : UInt8) :
    readFlag? ((Field.byte b).encode ++ rest) = some (decide (b ≠ 0), rest) :=
  rfl

theorem FieldKind.read?_encode {f : Field} (h : ∀ t, f = .string t → t.length < 2 ^ 32) :
    f.kind.read? (f.encode ++ rest) = some (f, rest) := by
  cases f with
  | byte b => rfl
  | word w => simp [Field.kind, FieldKind.read?]
  | string t => simp [Field.kind, FieldKind.read?, readString?_encode rest (h t rfl)]

theorem readFields?_encodeFields {fields : List Field}
    (h : ∀ t, Field.string t ∈ fields → t.length < 2 ^ 32) :
    readFields? (fields.map Field.kind) (encodeFields fields ++ rest) = some (fields, rest) := by
  induction fields with
  | nil => rfl
  | cons f fields ih =>
      have hfirst : ∀ t, f = .string t → t.length < 2 ^ 32 :=
        fun t ht => h t (ht ▸ List.mem_cons_self)
      have hlater := ih fun t ht => h t (List.mem_cons_of_mem _ ht)
      simp [readFields?, FieldKind.read?_encode _ hfirst, hlater]

end Encode

/-! ## Messages of the master -/

/-- The kinds of messages that say something to the client. -/
def heededKinds : List UInt8 :=
  [dataKind, extendedDataKind, windowAdjustKind, eofKind, closeKind, channelRequestKind,
    globalRequestKind]

/-- A frame carries a message. -/
inductive Carries : Bytes → Inbound → Prop
  | data (channel : UInt32) (payload rest : Bytes) (length : payload.length < 2 ^ 32) :
      Carries (encodeFields [.byte dataKind, .word channel, .string payload] ++ rest)
        (.data payload)
  | extendedData (channel code : UInt32) (payload rest : Bytes)
      (length : payload.length < 2 ^ 32) :
      Carries (encodeFields [.byte extendedDataKind, .word channel, .word code, .string payload]
        ++ rest) (.extendedData payload)
  | windowAdjust (channel amount : UInt32) (rest : Bytes) :
      Carries (encodeFields [.byte windowAdjustKind, .word channel, .word amount] ++ rest)
        (.windowAdjust amount)
  | eof (rest : Bytes) : Carries (encodeFields [.byte eofKind] ++ rest) .eof
  | close (rest : Bytes) : Carries (encodeFields [.byte closeKind] ++ rest) .close
  | channelRequest (channel : UInt32) (name : Bytes) (flag : UInt8) (rest : Bytes)
      (length : name.length < 2 ^ 32) :
      Carries (encodeFields [.byte channelRequestKind, .word channel, .string name, .byte flag]
        ++ rest) (.channelRequest (flag ≠ 0))
  | globalRequest (name : Bytes) (flag : UInt8) (rest : Bytes) (length : name.length < 2 ^ 32) :
      Carries (encodeFields [.byte globalRequestKind, .string name, .byte flag] ++ rest)
        (.globalRequest (flag ≠ 0))
  | other (kind : UInt8) (rest : Bytes) (unheeded : kind ∉ heededKinds) :
      Carries (encodeFields [.byte kind] ++ rest) (.other kind)

theorem carries_of_readAfter? {kind : UInt8} {s : Bytes} {m : Inbound}
    (h : Inbound.readAfter? kind s = some m) : Carries (kind :: s) m := by
  simp only [Inbound.readAfter?, readGlobalRequest?, Option.bind_eq_bind, Option.pure_def,
    Option.map_eq_map] at h
  split at h
  · next hkind =>
      simp only [Option.bind_eq_some_iff, Prod.exists, readWord?_eq_some_iff,
        readString?_eq_some_iff, Option.some.injEq] at h
      obtain ⟨channel, _, rfl, payload, rest, ⟨hlength, rfl⟩, rfl⟩ := h
      simpa [Field.encode, hkind] using Carries.data channel payload rest hlength
  split at h
  · next hkind =>
      simp only [Option.bind_eq_some_iff, Prod.exists, readWord?_eq_some_iff,
        readString?_eq_some_iff, Option.some.injEq] at h
      obtain ⟨channel, _, rfl, code, _, rfl, payload, rest, ⟨hlength, rfl⟩, rfl⟩ := h
      simpa [Field.encode, hkind] using Carries.extendedData channel code payload rest hlength
  split at h
  · next hkind =>
      simp only [Option.bind_eq_some_iff, Prod.exists, readWord?_eq_some_iff,
        Option.some.injEq] at h
      obtain ⟨channel, _, rfl, amount, rest, rfl, rfl⟩ := h
      simpa [Field.encode, hkind] using Carries.windowAdjust channel amount rest
  split at h
  · next hkind =>
      obtain rfl := Option.some.inj h
      simpa [Field.encode, hkind] using Carries.eof s
  split at h
  · next hkind =>
      obtain rfl := Option.some.inj h
      simpa [Field.encode, hkind] using Carries.close s
  split at h
  · next hkind =>
      simp only [Option.bind_eq_some_iff, Prod.exists, readWord?_eq_some_iff, readText?_eq_some_iff,
        readFlag?_eq_some_iff, readString?_eq_some_iff, Option.some.injEq] at h
      obtain ⟨channel, _, rfl, _, _, ⟨name, ⟨hlength, rfl⟩, -⟩, _, rest, ⟨flag, rfl, rfl⟩, rfl⟩ := h
      simpa [Field.encode, hkind] using Carries.channelRequest channel name flag rest hlength
  split at h
  · next hkind =>
      simp only [Option.map_eq_some_iff, Option.bind_eq_some_iff, Prod.exists,
        readText?_eq_some_iff, readFlag?_eq_some_iff, readString?_eq_some_iff,
        Option.some.injEq] at h
      obtain ⟨_, ⟨_, _, ⟨name, ⟨hlength, rfl⟩, -⟩, _, rest, ⟨flag, rfl, rfl⟩, rfl⟩, rfl⟩ := h
      simpa [Field.encode, hkind] using Carries.globalRequest name flag rest hlength
  · obtain rfl := Option.some.inj h
    have hunheeded : kind ∉ heededKinds := by simp [heededKinds, *]
    simpa [Field.encode] using Carries.other kind s hunheeded

/-- The kinds are told apart one after the other, so a frame is read by the layout of its own. -/
theorem readAfter?_of_carries {body : Bytes} {m : Inbound} (h : Carries body m) :
    ∃ kind s, body = kind :: s ∧ Inbound.readAfter? kind s = some m := by
  cases h with
  | data channel payload rest length =>
      refine ⟨dataKind, encodeFields [.word channel, .string payload] ++ rest, rfl, ?_⟩
      simp [Inbound.readAfter?, readString?_encode rest length]
  | extendedData channel code payload rest length =>
      refine ⟨extendedDataKind,
        encodeFields [.word channel, .word code, .string payload] ++ rest, rfl, ?_⟩
      simp [Inbound.readAfter?, readString?_encode rest length, dataKind, extendedDataKind]
  | windowAdjust channel amount rest =>
      refine ⟨windowAdjustKind, encodeFields [.word channel, .word amount] ++ rest, rfl, ?_⟩
      simp [Inbound.readAfter?, dataKind, extendedDataKind, windowAdjustKind]
  | eof rest => exact ⟨eofKind, rest, rfl, rfl⟩
  | close rest => exact ⟨closeKind, rest, rfl, rfl⟩
  | channelRequest channel name flag rest length =>
      refine ⟨channelRequestKind,
        encodeFields [.word channel, .string name, .byte flag] ++ rest, rfl, ?_⟩
      simp [Inbound.readAfter?, readText?_encode _ length, dataKind, extendedDataKind,
        windowAdjustKind, eofKind, closeKind, channelRequestKind]
  | globalRequest name flag rest length =>
      refine ⟨globalRequestKind, encodeFields [.string name, .byte flag] ++ rest, rfl, ?_⟩
      simp [Inbound.readAfter?, readGlobalRequest?, readText?_encode _ length, dataKind,
        extendedDataKind, windowAdjustKind, eofKind, closeKind, channelRequestKind,
        globalRequestKind]
  | other kind rest unheeded =>
      simp only [heededKinds, List.mem_cons, List.not_mem_nil, or_false, not_or] at unheeded
      exact ⟨kind, rest, rfl, by simp [Inbound.readAfter?, unheeded]⟩

theorem ofFrame_eq_ok_iff {body : Bytes} {m : Inbound} :
    Inbound.ofFrame body = .ok m ↔ Carries body m := by
  constructor
  · intro h
    cases body with
    | nil => simp [Inbound.ofFrame] at h
    | cons kind s =>
        apply carries_of_readAfter?
        cases hread : Inbound.readAfter? kind s with
        | none => simp [Inbound.ofFrame, hread] at h
        | some m' => simpa [Inbound.ofFrame, hread] using h
  · intro h
    obtain ⟨kind, s, rfl, hread⟩ := readAfter?_of_carries h
    simp [Inbound.ofFrame, hread]

instance (body : Bytes) (m : Inbound) : Decidable (Carries body m) :=
  decidable_of_iff ((Inbound.ofFrame body).toOption = some m)
    (toOption_eq_some_iff.trans ofFrame_eq_ok_iff)

theorem exists_extendedData {n : Nat} (h : n < 2 ^ 32) :
    ∃ payload body, payload.length = n ∧ Inbound.ofFrame body = .ok (.extendedData payload) := by
  have hlength : (List.replicate n (0 : UInt8)).length = n := List.length_replicate
  exact ⟨_, _, hlength, ofFrame_eq_ok_iff.2 (.extendedData 0 1 _ [] (hlength.symm ▸ h))⟩

theorem Carries.unique {body : Bytes} {m m' : Inbound} (h : Carries body m)
    (h' : Carries body m') : m = m' := by
  rw [← ofFrame_eq_ok_iff] at h h'
  exact Except.ok.inj (h.symm.trans h')

theorem not_carries_of_ofFrame {body : Bytes} {fault : Fault}
    (h : Inbound.ofFrame body = .error fault) (m : Inbound) : ¬ Carries body m := by
  rw [← ofFrame_eq_ok_iff, h]
  simp

/-! ## Messages of the client -/

/-- An octet string after four octets with its length, which is told modulo `2 ^ 32`. -/
def afterLength (t : Bytes) : Bytes :=
  Bytes.ofWord t.length.toUInt32 ++ t

/-- The octets of a message of the client. The greeting gives version 4, the request for a
connection is number 1, and the channel that is asked for is number 0, with a window of 2 MiB and
messages of up to 32 KiB. -/
inductive Spells : Bytes → Outbound → Prop
  | hello : Spells [0, 0, 0, 1, 0, 0, 0, 4] .hello
  | proxy : Spells [0x10, 0, 0, 0x0F, 0, 0, 0, 1] .proxy
  | channelOpen (target : Target) :
      Spells (90 :: (afterLength (Text.Utf8.ofString "direct-tcpip") ++ [0, 0, 0, 0] ++
          [0, 0x20, 0, 0] ++ [0, 0, 0x80, 0] ++ afterLength (Text.Utf8.ofString target.host) ++
          Bytes.ofWord target.port.toUInt32 ++ afterLength (Text.Utf8.ofString "127.0.0.1") ++
          [0, 0, 0, 0]))
        (.channelOpen target)
  | data (channel : UInt32) (payload : Bytes) :
      Spells (94 :: (Bytes.ofWord channel ++ afterLength payload)) (.data channel payload)
  | windowAdjust (channel amount : UInt32) :
      Spells (93 :: (Bytes.ofWord channel ++ Bytes.ofWord amount)) (.windowAdjust channel amount)
  | eof (channel : UInt32) : Spells (96 :: Bytes.ofWord channel) (.eof channel)
  | close (channel : UInt32) : Spells (97 :: Bytes.ofWord channel) (.close channel)
  | channelFailure (channel : UInt32) :
      Spells (100 :: Bytes.ofWord channel) (.channelFailure channel)
  | requestFailure : Spells [82] .requestFailure

theorem Spells.eq_encode {body : Bytes} {m : Outbound} (h : Spells body m) : body = m.encode := by
  cases h with
  | hello => rfl
  | proxy => rfl
  | channelOpen target =>
      have hchannel : Bytes.ofWord localChannel = [0, 0, 0, 0] := by decide
      have hwindow : Bytes.ofWord localWindow = [0, 0x20, 0, 0] := by decide
      have hpacket : Bytes.ofWord localMaxPacket = [0, 0, 0x80, 0] := by decide
      have hzero : Bytes.ofWord 0 = [0, 0, 0, 0] := by decide
      simp [Outbound.encode, Outbound.fields, Field.encode, afterLength, hchannel, hwindow,
        hpacket, hzero, openKind]
  | data channel payload =>
      simp [Outbound.encode, Outbound.fields, Field.encode, afterLength, dataKind]
  | windowAdjust channel amount =>
      simp [Outbound.encode, Outbound.fields, Field.encode, windowAdjustKind]
  | eof channel => simp [Outbound.encode, Outbound.fields, Field.encode, eofKind]
  | close channel => simp [Outbound.encode, Outbound.fields, Field.encode, closeKind]
  | channelFailure channel =>
      simp [Outbound.encode, Outbound.fields, Field.encode, channelFailureKind]
  | requestFailure => rfl

theorem exists_spells (m : Outbound) : ∃ body, Spells body m := by
  cases m with
  | hello => exact ⟨_, .hello⟩
  | proxy => exact ⟨_, .proxy⟩
  | channelOpen target => exact ⟨_, .channelOpen target⟩
  | data channel payload => exact ⟨_, .data channel payload⟩
  | windowAdjust channel amount => exact ⟨_, .windowAdjust channel amount⟩
  | eof channel => exact ⟨_, .eof channel⟩
  | close channel => exact ⟨_, .close channel⟩
  | channelFailure channel => exact ⟨_, .channelFailure channel⟩
  | requestFailure => exact ⟨_, .requestFailure⟩

theorem spells_iff {body : Bytes} {m : Outbound} : Spells body m ↔ body = m.encode := by
  constructor
  · exact Spells.eq_encode
  · rintro rfl
    obtain ⟨body, h⟩ := exists_spells m
    exact h.eq_encode ▸ h

end SshTunnel.Mux
