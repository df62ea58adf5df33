import SshTunnel.Proofs.Address.Literal
import SshTunnel.Proofs.Proxy.Replies

/-!
# What a proxy hears

A proxy reads the messages of a client one after another: the methods that it offers, its login if
one was asked for, and where it wants to be connected (`hear?`). Of what the client sends to a proxy
that lets it through, just the address it was given is read, and nothing is left over
(`hear?_messages`).
-/

namespace SshTunnel.Proxy

/-! ## The proxy's reader -/

/-- Where a client wants to be connected. -/
inductive Destination where
  | address (a : IpAddress)
  | name (host : String)
  deriving DecidableEq

/-- What a host stands for: the address that it spells, and itself if it spells none. -/
inductive Destination.IsOf (host : String) : Destination → Prop
  | address {a : IpAddress} (spelled : IpAddress.Spells host.toList a) : IsOf host (.address a)
  | name (plain : ∀ a, ¬ IpAddress.Spells host.toList a) : IsOf host (.name host)

/-- What a proxy knows of a client in the end. -/
structure Heard where
  methods : Bytes
  login : Option (String × String)
  destination : Destination
  port : UInt16
  deriving DecidableEq

def readCounted? : Bytes → Option (Bytes × Bytes)
  | [] => none
  | count :: s => Bytes.take? count.toNat s

def readText? (s : Bytes) : Option (String × Bytes) := do
  let (octets, s) ← readCounted? s
  let text ← (Text.Utf8.decode octets).toOption
  pure (String.ofList text, s)

def expect? (octet : UInt8) : Bytes → Option Bytes
  | [] => none
  | b :: s => if b = octet then some s else none

def readGreeting? (s : Bytes) : Option (Bytes × Bytes) := do
  readCounted? (← expect? 5 s)

def readLogin? (s : Bytes) : Option ((String × String) × Bytes) := do
  let (user, s) ← readText? (← expect? 1 s)
  let (password, s) ← readText? s
  pure ((user, password), s)

def readDestination? : Bytes → Option (Destination × Bytes)
  | [] => none
  | kind :: s =>
      if kind = 1 then (Bytes.take? 4 s).map fun (octets, s) => (.address (.v4 octets), s)
      else if kind = 4 then (Bytes.take? 16 s).map fun (octets, s) => (.address (.v6 octets), s)
      else if kind = 3 then (readText? s).map fun (host, s) => (.name host, s)
      else none

def readPort? : Bytes → Option (UInt16 × Bytes)
  | high :: low :: s => some ((256 * high.toNat + low.toNat).toUInt16, s)
  | _ => none

def readRequest? (s : Bytes) : Option (Destination × UInt16 × Bytes) := do
  let s ← expect? 0 (← expect? 1 (← expect? 5 s))
  let (destination, s) ← readDestination? s
  let (port, s) ← readPort? s
  pure (destination, port, s)

/-- What a proxy that has selected a method reads of all that a client has sent. -/
def hear? (method : UInt8) (s : Bytes) : Option Heard := do
  let (methods, s) ← readGreeting? s
  let (login, s) ←
    if method = 2 then (readLogin? s).map fun (login, s) => (some login, s) else some (none, s)
  let (destination, port, s) ← readRequest? s
  if s = [] then some { methods, login, destination, port } else none

/-! ## Reading what was sent -/

variable {s rest : Bytes}

@[simp] theorem expect?_cons (octet : UInt8) (s : Bytes) : expect? octet (octet :: s) = some s :=
  if_pos rfl

@[simp] theorem take?_append (s rest : Bytes) : Bytes.take? s.length (s ++ rest) = some (s, rest) :=
  Bytes.take?_eq_some_iff.2 ⟨rfl, rfl⟩

theorem readCounted?_counted (h : s.length ≤ 255) (rest : Bytes) :
    readCounted? (counted s ++ rest) = some (s, rest) := by
  rw [counted, List.cons_append, readCounted?, toNat_count h, take?_append]

theorem readText?_counted {text : String} (h : (Text.Utf8.ofString text).length ≤ 255)
    (rest : Bytes) : readText? (counted (Text.Utf8.ofString text) ++ rest) = some (text, rest) := by
  rw [readText?, readCounted?_counted h]
  simp [Text.Utf8.decode_ofString, Except.toOption]

theorem readGreeting?_greeting (credentials : Option (Bytes × Bytes)) (rest : Bytes) :
    readGreeting? (greeting credentials ++ rest) = some (offered credentials, rest) := by
  cases credentials with
  | none => exact take?_append [0] rest
  | some login => exact take?_append [0, 2] rest

theorem readLogin?_login {user password : String} (hu : (Text.Utf8.ofString user).length ≤ 255)
    (hp : (Text.Utf8.ofString password).length ≤ 255) (rest : Bytes) :
    readLogin? (login (Text.Utf8.ofString user) (Text.Utf8.ofString password) ++ rest) =
      some ((user, password), rest) := by
  simp only [login, List.cons_append, List.append_assoc, readLogin?, expect?_cons]
  simp [readText?_counted hu, readText?_counted hp]

theorem readPort?_encodePort (port : UInt16) (rest : Bytes) :
    readPort? (encodePort port ++ rest) = some (port, rest) := by
  have hport := port.toNat_lt
  have hvalue : (256 * (port >>> 8).toUInt8.toNat + port.toUInt8.toNat).toUInt16 = port := by
    rw [← UInt16.toNat_inj]
    simp [UInt16.toNat_shiftRight, Nat.shiftRight_eq_div_pow]
    omega
  simp only [encodePort, List.cons_append, List.nil_append, readPort?, hvalue]

/-- The address of a destination is read as it was encoded, or the name. -/
theorem exists_destination {host : String} {octets : Bytes} (h : encodeHost host = .ok octets) :
    ∃ destination : Destination, destination.IsOf host ∧
      ∀ rest, readDestination? (octets ++ rest) = some (destination, rest) := by
  rw [encodeHost] at h
  split at h
  · next a hparse =>
      obtain rfl := Except.ok.inj h
      have hspells := IpAddress.parse?_eq_some_iff.1 hparse
      refine ⟨.address (.v4 a), .address hspells, fun rest => ?_⟩
      rw [List.cons_append, readDestination?, if_pos rfl,
        ← IpAddress.length_of_spells_v4 hspells, take?_append]
      rfl
  · next a hparse =>
      obtain rfl := Except.ok.inj h
      have hspells := IpAddress.parse?_eq_some_iff.1 hparse
      refine ⟨.address (.v6 a), .address hspells, fun rest => ?_⟩
      rw [List.cons_append, readDestination?, if_neg (by decide), if_pos rfl,
        ← IpAddress.length_of_spells_v6 hspells, take?_append]
      rfl
  · next hparse =>
      dsimp only at h
      split at h
      · cases h
      · next hlength =>
          obtain rfl := Except.ok.inj h
          refine ⟨.name host, .name fun a hspells => ?_, fun rest => ?_⟩
          · rw [IpAddress.parse?_eq_some_iff.2 hspells] at hparse
            cases hparse
          · rw [List.cons_append, readDestination?, if_neg (by decide), if_neg (by decide),
              if_pos rfl, readText?_counted (Nat.le_of_not_lt hlength)]
            rfl

theorem readRequest?_request {host : Bytes} {destination : Destination}
    (h : ∀ rest, readDestination? (host ++ rest) = some (destination, rest)) (port : UInt16)
    (rest : Bytes) :
    readRequest? (request host port ++ rest) = some (destination, port, rest) := by
  simp only [request, List.cons_append, List.nil_append, List.append_assoc, readRequest?,
    expect?_cons, Option.bind_eq_bind, Option.bind_some, h, readPort?_encodePort]
  rfl

/-! ## What can be sent -/

def IsShort (text : String) : Prop :=
  1 ≤ (Text.Utf8.ofString text).length ∧ (Text.Utf8.ofString text).length ≤ 255

def CanLogIn (proxy : ProxyAddress) : Prop :=
  ∀ user password, proxy.credentials = some (user, password) → IsShort user ∧ IsShort password

def CanName (host : String) : Prop :=
  (∃ a, IpAddress.Spells host.toList a) ∨ (Text.Utf8.ofString host).length ≤ 255

def octetsOf (credentials : Option (String × String)) : Option (Bytes × Bytes) :=
  credentials.map (Prod.map Text.Utf8.ofString Text.Utf8.ofString)

theorem not_isSendable_iff {text : String} :
    (!isSendable (Text.Utf8.ofString text)) = true ↔ ¬ IsShort text := by
  simp only [isSendable, IsShort, Bool.not_eq_true', ← Bool.not_eq_true, Bool.and_eq_true,
    decide_eq_true_eq]

theorem encodeCredentials_of_not_isShort_user {user : String} (h : ¬ IsShort user)
    (password : String) : encodeCredentials (some (user, password)) = .error .badUsername :=
  if_pos (not_isSendable_iff.2 h)

theorem encodeCredentials_of_not_isShort_password {user password : String} (hu : IsShort user)
    (hp : ¬ IsShort password) :
    encodeCredentials (some (user, password)) = .error .badPassword := by
  rw [encodeCredentials]
  rw [if_neg (not_isSendable_iff.not.2 (not_not.2 hu)), if_pos (not_isSendable_iff.2 hp)]

theorem encodeCredentials_of_isShort {user password : String} (hu : IsShort user)
    (hp : IsShort password) : encodeCredentials (some (user, password)) =
      .ok (octetsOf (some (user, password))) := by
  rw [encodeCredentials]
  rw [if_neg (not_isSendable_iff.not.2 (not_not.2 hu)),
    if_neg (not_isSendable_iff.not.2 (not_not.2 hp))]
  rfl

theorem encodeCredentials_eq_ok_iff {proxy : ProxyAddress} {octets : Option (Bytes × Bytes)} :
    encodeCredentials proxy.credentials = .ok octets ↔
      CanLogIn proxy ∧ octets = octetsOf proxy.credentials := by
  rw [CanLogIn]
  cases proxy.credentials with
  | none => simp [encodeCredentials, octetsOf, eq_comm]
  | some login =>
      obtain ⟨user, password⟩ := login
      by_cases hu : IsShort user
      · by_cases hp : IsShort password
        · simp [encodeCredentials_of_isShort hu hp, hu, hp, eq_comm]
        · simp [encodeCredentials_of_not_isShort_password hu hp, hp]
      · simp [encodeCredentials_of_not_isShort_user hu, hu]

theorem exists_encodeHost_iff {host : String} : (∃ octets, encodeHost host = .ok octets) ↔
    CanName host := by
  simp only [CanName, ← IpAddress.parse?_eq_some_iff]
  rw [encodeHost]
  cases IpAddress.parse? host.toList with
  | some a => cases a <;> simp
  | none =>
      dsimp only
      split
      · next hlong => simp [hlong]
      · next hshort => simp [Nat.le_of_not_lt hshort]

/-- Octets are exchanged once all that is to be sent can be. -/
theorem negotiate_eq_exchange {proxy : ProxyAddress} {target : Target} {host : Bytes}
    (hlogin : CanLogIn proxy) (hhost : encodeHost target.host = .ok host) (reply : Bytes) :
    negotiate proxy target reply =
      exchange (octetsOf proxy.credentials) host target.port reply := by
  rw [negotiate, encodeCredentials_eq_ok_iff.2 ⟨hlogin, rfl⟩, hhost]

theorem canLogIn_of_negotiate {proxy : ProxyAddress} {target : Target} {reply : Bytes}
    (h : (negotiate proxy target reply).result = .ok rest) :
    CanLogIn proxy ∧ ∃ host, encodeHost target.host = .ok host := by
  rw [negotiate] at h
  split at h
  · cases h
  · next credentials hcredentials =>
      split at h
      · cases h
      · next host hhost => exact ⟨(encodeCredentials_eq_ok_iff.1 hcredentials).1, host, hhost⟩

/-! ## All that was sent -/

@[simp] theorem offered_octetsOf (credentials : Option (String × String)) :
    offered (octetsOf credentials) = offered credentials := by
  cases credentials <;> rfl

/-- A proxy hears what a client was told, the login if it has selected that method. -/
theorem hear?_messages {proxy : ProxyAddress} {method : UInt8} {host : Bytes}
    {destination : Destination} (hlogin : CanLogIn proxy)
    (hmethod : method ∈ offered proxy.credentials)
    (hhost : ∀ rest, readDestination? (host ++ rest) = some (destination, rest)) (port : UInt16) :
    hear? method (messages (octetsOf proxy.credentials) method host port) =
      some {
        methods := offered proxy.credentials
        login := if method = 2 then proxy.credentials else none
        destination := destination
        port := port } := by
  have hrequest := readRequest?_request hhost port []
  rw [List.append_nil] at hrequest
  rw [hear?, messages, List.append_assoc, readGreeting?_greeting, offered_octetsOf]
  -- There is a login to read only if the proxy asked for it.
  by_cases htwo : method = 2
  · obtain ⟨user, password, hcredentials⟩ :
        ∃ user password, proxy.credentials = some (user, password) := by
      cases hcredentials : proxy.credentials with
      | none => simp [hcredentials, offered, htwo] at hmethod
      | some login => exact ⟨login.1, login.2, rfl⟩
    obtain ⟨huser, hpassword⟩ := hlogin user password hcredentials
    simp [htwo, hcredentials, octetsOf, readLogin?_login huser.2 hpassword.2, hrequest]
  · simp [htwo, hrequest]

end SshTunnel.Proxy
