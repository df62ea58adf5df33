import SshTunnel.Proofs.Proxy.Dialogue
import SshTunnel.Proofs.Text.Utf8

/-!
# Replies of a proxy

A proxy lets a client through by its replies (`LetsThrough`): it selects a method, accepts the login
if it has asked for one, and reports the address it has bound. A negotiation succeeds just on such
replies, and leaves what follows them (`exchange_of_letsThrough` and `exists_letsThrough`).
-/

namespace SshTunnel.Proxy

/-- The address that a proxy has bound, after its kind and before its port. -/
inductive Bound : Bytes → Prop
  | v4 (address port : Bytes) (length : address.length = 4) (portLength : port.length = 2) :
      Bound (1 :: (address ++ port))
  | v6 (address port : Bytes) (length : address.length = 16) (portLength : port.length = 2) :
      Bound (4 :: (address ++ port))
  | name (name : String) (port : Bytes) (length : (Text.Utf8.ofString name).length ≤ 255)
      (portLength : port.length = 2) :
      Bound (3 :: (counted (Text.Utf8.ofString name) ++ port))

/-- The replies by which a proxy lets a client through, with the method that it selects. -/
inductive LetsThrough : UInt8 → Bytes → Prop
  | openly {address : Bytes} (bound : Bound address) :
      LetsThrough 0 ([5, 0] ++ ([5, 0, 0] ++ address))
  | loggedIn {address : Bytes} (bound : Bound address) :
      LetsThrough 2 ([5, 2] ++ ([1, 0] ++ ([5, 0, 0] ++ address)))

def offered {α : Type} (credentials : Option α) : Bytes :=
  match credentials with
  | none => [0]
  | some _ => [0, 2]

variable {credentials : Option (Bytes × Bytes)} {method kind : UInt8} {s rest replies : Bytes}

/-! ## Reading replies -/

theorem toNat_count (h : s.length ≤ 255) : s.length.toUInt8.toNat = s.length :=
  UInt8.toNat_ofNat_of_lt' (Nat.lt_succ_of_le h)

theorem readMethod_eq_ok_iff : readMethod s = .ok (method, rest) ↔ s = [5, method] ++ rest := by
  rw [readMethod, bind_eq_ok_iff]
  constructor
  · rintro ⟨⟨head, rest'⟩, hreceive, hhead⟩
    obtain ⟨hlength, rfl⟩ := receive_eq_ok_iff.1 hreceive
    obtain ⟨version, method', rfl⟩ := List.length_eq_two.1 hlength
    dsimp only at hhead
    split at hhead
    · next hversion =>
        obtain ⟨rfl, rfl⟩ := Prod.mk.inj (Except.ok.inj hhead)
        rw [hversion]
    · exact absurd hhead throw_ne_ok
  · rintro rfl
    exact ⟨([5, method], rest), receive_eq_ok_iff.2 ⟨rfl, rfl⟩, rfl⟩

theorem readStatus_eq_ok_iff : readStatus s = .ok rest ↔ s = [1, 0] ++ rest := by
  rw [readStatus, bind_eq_ok_iff]
  constructor
  · rintro ⟨⟨head, rest'⟩, hreceive, hhead⟩
    obtain ⟨hlength, rfl⟩ := receive_eq_ok_iff.1 hreceive
    obtain ⟨version, status, rfl⟩ := List.length_eq_two.1 hlength
    obtain ⟨hversion, hhead⟩ := check_eq_ok_iff.1 hhead
    obtain ⟨hstatus, hhead⟩ := check_eq_ok_iff.1 hhead
    obtain rfl := Except.ok.inj hhead
    rw [not_not.1 hversion, not_not.1 hstatus]
  · rintro rfl
    exact ⟨([1, 0], rest), receive_eq_ok_iff.2 ⟨rfl, rfl⟩, rfl⟩

theorem map_snd_receive_eq_ok_iff {n : Nat} :
    (·.2) <$> receive n s = .ok rest ↔
      ∃ octets : Bytes, octets.length = n ∧ s = octets ++ rest := by
  change (receive n s).map _ = _ ↔ _
  rw [map_eq_ok_iff]
  constructor
  · rintro ⟨⟨octets, rest'⟩, hreceive, rfl⟩
    exact ⟨octets, receive_eq_ok_iff.1 hreceive⟩
  · rintro ⟨octets, hoctets⟩
    exact ⟨(octets, rest), receive_eq_ok_iff.2 hoctets, rfl⟩

theorem skipName_eq_ok_iff : skipName s = .ok rest ↔
    ∃ (name : String) (port : Bytes), (Text.Utf8.ofString name).length ≤ 255 ∧ port.length = 2 ∧
      s = counted (Text.Utf8.ofString name) ++ port ++ rest := by
  rw [skipName, bind_eq_ok_iff]
  constructor
  · rintro ⟨⟨head, rest'⟩, hhead, hskip⟩
    obtain ⟨hlength, rfl⟩ := receive_eq_ok_iff.1 hhead
    obtain ⟨n, rfl⟩ := List.length_eq_one_iff.1 hlength
    obtain ⟨⟨tail, rest''⟩, htail, hdecode⟩ := bind_eq_ok_iff.1 hskip
    obtain ⟨htailLength, rfl⟩ := receive_eq_ok_iff.1 htail
    have hn : tail.length = n.toNat + 2 := htailLength
    have hbound := n.toNat_lt
    dsimp only at hdecode
    split at hdecode
    · next text htext =>
        obtain rfl := Except.ok.inj hdecode
        obtain ⟨name, port, hport, rfl⟩ :
            ∃ name port : Bytes, port.length = 2 ∧ tail = name ++ port :=
          ⟨_, tail.drop (tail.length - 2), by rw [List.length_drop]; omega,
            (List.take_append_drop (tail.length - 2) tail).symm⟩
        rw [List.length_append, hport] at hn
        rw [List.length_append, hport, Nat.add_sub_cancel, List.take_left,
          Text.Utf8.decode_eq_ok_iff] at htext
        have hname : Text.Utf8.ofString (String.ofList text) = name := by
          rw [Text.Utf8.ofString, String.toList_ofList, htext]
        have hcount : name.length.toUInt8 = n := by
          rw [show name.length = n.toNat by omega]
          exact UInt8.ofNat_toNat
        refine ⟨String.ofList text, port, by rw [hname]; omega, hport, ?_⟩
        simp [hname, counted, hcount]
    · exact absurd hdecode throw_ne_ok
  · rintro ⟨name, port, hname, hport, rfl⟩
    refine ⟨([_], _), receive_eq_ok_iff.2 ⟨rfl, rfl⟩, bind_eq_ok_iff.2
      ⟨(Text.Utf8.ofString name ++ port, rest), receive_eq_ok_iff.2 ⟨?_, rfl⟩, ?_⟩⟩
    · rw [List.length_append, hport, List.headD_cons, toNat_count hname]
    · dsimp only
      rw [List.length_append, hport, Nat.add_sub_cancel, List.take_left,
        Text.Utf8.decode_ofString]
      rfl

theorem exists_address_port {n : Nat} (h : s.length = n + 2) :
    ∃ address port : Bytes, address.length = n ∧ port.length = 2 ∧ s = address ++ port := by
  refine ⟨s.take n, s.drop n, ?_, ?_, (List.take_append_drop n s).symm⟩
  · rw [List.length_take]
    omega
  · rw [List.length_drop]
    omega

theorem bound_v4_iff : Bound (1 :: s) ↔ s.length = 6 := by
  constructor
  · intro h
    cases h with
    | v4 address port length portLength => rw [List.length_append, length, portLength]
  · intro h
    obtain ⟨address, port, length, portLength, rfl⟩ := exists_address_port h
    exact .v4 address port length portLength

theorem bound_v6_iff : Bound (4 :: s) ↔ s.length = 18 := by
  constructor
  · intro h
    cases h with
    | v6 address port length portLength => rw [List.length_append, length, portLength]
  · intro h
    obtain ⟨address, port, length, portLength, rfl⟩ := exists_address_port h
    exact .v6 address port length portLength

theorem skipAddress_eq_ok_iff : skipAddress kind s = .ok rest ↔
    ∃ address, Bound (kind :: address) ∧ s = address ++ rest := by
  rw [skipAddress]
  split
  · next hkind => simp only [hkind, map_snd_receive_eq_ok_iff, bound_v4_iff]
  split
  · next hkind => simp only [hkind, map_snd_receive_eq_ok_iff, bound_v6_iff]
  split
  · next hkind =>
      rw [hkind, skipName_eq_ok_iff]
      constructor
      · rintro ⟨name, port, length, portLength, rfl⟩
        exact ⟨_, .name name port length portLength, rfl⟩
      · rintro ⟨address, hbound, rfl⟩
        cases hbound with
        | name name port length portLength => exact ⟨name, port, length, portLength, rfl⟩
  · next hv4 hv6 hname =>
      constructor
      · intro h
        cases h
      · rintro ⟨address, hbound, rfl⟩
        cases hbound with
        | v4 => exact absurd rfl hv4
        | v6 => exact absurd rfl hv6
        | name => exact absurd rfl hname

theorem readReply_eq_ok_iff : readReply s = .ok rest ↔
    ∃ address, Bound address ∧ s = [5, 0, 0] ++ address ++ rest := by
  rw [readReply, bind_eq_ok_iff]
  constructor
  · rintro ⟨⟨head, rest'⟩, hreceive, hhead⟩
    obtain ⟨hlength, rfl⟩ := receive_eq_ok_iff.1 hreceive
    obtain ⟨version, code, reserved, kind, rfl⟩ := List.length_eq_four.1 hlength
    obtain ⟨hversion, hhead⟩ := check_eq_ok_iff.1 hhead
    obtain ⟨hreserved, hhead⟩ := check_eq_ok_iff.1 hhead
    obtain ⟨hcode, hhead⟩ := check_eq_ok_iff.1 hhead
    obtain ⟨address, hbound, rfl⟩ := skipAddress_eq_ok_iff.1 hhead
    rw [not_not.1 hversion, not_not.1 hreserved, not_not.1 hcode]
    exact ⟨kind :: address, hbound, rfl⟩
  · rintro ⟨address, hbound, rfl⟩
    obtain ⟨kind, octets, rfl⟩ : ∃ kind octets, address = kind :: octets := by
      cases hbound <;> exact ⟨_, _, rfl⟩
    refine ⟨([5, 0, 0, kind], octets ++ rest), receive_eq_ok_iff.2 ⟨rfl, rfl⟩, ?_⟩
    exact skipAddress_eq_ok_iff.2 ⟨octets, hbound, rfl⟩

theorem answerMethod_eq_ok_iff {message : Option Bytes} :
    answerMethod credentials method = .ok message ↔
      method = 0 ∧ message = none ∨
        method = 2 ∧ ∃ user password, credentials = some (user, password) ∧
          message = some (login user password) := by
  rw [answerMethod.eq_def]
  split
  · next hmethod => simp [hmethod, eq_comm]
  split
  · next hmethod =>
      split
      · next user password => simp [hmethod, eq_comm]
      · simp [hmethod]
  · next hopen hlogin => split <;> simp [hopen, hlogin]

/-! ## The whole negotiation -/

/-- All that a client sends to a proxy that selects a method and lets it through. -/
def messages (credentials : Option (Bytes × Bytes)) (method : UInt8) (host : Bytes)
    (port : UInt16) : Bytes :=
  let message := if method = 2 then credentials.map fun (user, password) => login user password
    else none
  greeting credentials ++ message.getD [] ++ request host port

theorem exchange_of_letsThrough (h : LetsThrough method replies)
    (hmethod : method ∈ offered credentials) (host : Bytes) (port : UInt16) (rest : Bytes) :
    exchange credentials host port (replies ++ rest) =
      ⟨messages credentials method host port, .ok rest⟩ := by
  cases h with
  | @openly address hbound =>
      have hread : readMethod ([5, 0] ++ ([5, 0, 0] ++ address) ++ rest) =
          .ok (0, [5, 0, 0] ++ address ++ rest) := readMethod_eq_ok_iff.2 rfl
      have hanswer : answerMethod credentials 0 = .ok none :=
        answerMethod_eq_ok_iff.2 (.inl ⟨rfl, rfl⟩)
      have hreply : readReply ([5, 0, 0] ++ address ++ rest) = .ok rest :=
        readReply_eq_ok_iff.2 ⟨address, hbound, rfl⟩
      simp only [exchange, hread, hanswer, finish, hreply, messages]
      simp
  | @loggedIn address hbound =>
      obtain ⟨user, password, rfl⟩ : ∃ user password, credentials = some (user, password) := by
        cases credentials with
        | none => simp [offered] at hmethod
        | some login => exact ⟨login.1, login.2, rfl⟩
      have hread : readMethod ([5, 2] ++ ([1, 0] ++ ([5, 0, 0] ++ address)) ++ rest) =
          .ok (2, [1, 0] ++ ([5, 0, 0] ++ address ++ rest)) := readMethod_eq_ok_iff.2 rfl
      have hanswer : answerMethod (some (user, password)) 2 = .ok (some (login user password)) :=
        answerMethod_eq_ok_iff.2 (.inr ⟨rfl, user, password, rfl, rfl⟩)
      have hstatus : readStatus ([1, 0] ++ ([5, 0, 0] ++ address ++ rest)) =
          .ok ([5, 0, 0] ++ address ++ rest) := readStatus_eq_ok_iff.2 rfl
      have hreply : readReply ([5, 0, 0] ++ address ++ rest) = .ok rest :=
        readReply_eq_ok_iff.2 ⟨address, hbound, rfl⟩
      simp only [exchange, hread, hanswer, hstatus, finish, hreply, messages]
      rfl

/-- A negotiation that succeeds has been let through by the replies before the octets it leaves. -/
theorem exists_letsThrough {host : Bytes} {port : UInt16}
    (h : (exchange credentials host port s).result = .ok rest) :
    ∃ method replies, method ∈ offered credentials ∧ LetsThrough method replies ∧
      s = replies ++ rest := by
  rw [exchange] at h
  split at h
  · cases h
  · next method s' hread =>
      obtain rfl := readMethod_eq_ok_iff.1 hread
      split at h
      · cases h
      · next hanswer =>
          obtain ⟨rfl, -⟩ | ⟨-, _, _, -, heq⟩ := answerMethod_eq_ok_iff.1 hanswer
          · obtain ⟨address, hbound, rfl⟩ := readReply_eq_ok_iff.1 h
            have hmem : 0 ∈ offered credentials := by cases credentials <;> simp [offered]
            exact ⟨0, _, hmem, .openly hbound, by simp⟩
          · cases heq
      · next message hanswer =>
          obtain ⟨-, heq⟩ | ⟨rfl, user, password, rfl, -⟩ := answerMethod_eq_ok_iff.1 hanswer
          · cases heq
          · split at h
            · cases h
            · next s'' hstatus =>
                obtain rfl := readStatus_eq_ok_iff.1 hstatus
                obtain ⟨address, hbound, rfl⟩ := readReply_eq_ok_iff.1 h
                exact ⟨2, _, by simp [offered], .loggedIn hbound, by simp⟩

end SshTunnel.Proxy
