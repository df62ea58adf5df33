import SshTunnel.Proofs.Proxy.Dialogue
import SshTunnel.Proofs.Proxy.Messages

/-!
# Connecting through a proxy

A connection through a proxy comes about just when the proxy lets the client through. The proxy has
then heard what the client was told and nothing else, and the client has taken the proxy's replies
and nothing after them (`connects_on_replies`).
-/

namespace SshTunnel.Proxy

variable {proxy : ProxyAddress} {target : Target} {s rest : Bytes}

theorem rest_eq_ok_iff {o : Outcome} : o.rest target = .ok rest ↔ o.result = .ok rest :=
  mapError_eq_ok_iff

theorem exists_heard_of_negotiate (h : (negotiate proxy target s).result = .ok rest) :
    ∃ method ∈ offered proxy.credentials, ∃ replies, LetsThrough method replies ∧
      s = replies ++ rest ∧
      ∃ destination : Destination, destination.IsOf target.host ∧
        hear? method (negotiate proxy target s).sent = some {
          methods := offered proxy.credentials
          login := if method = 2 then proxy.credentials else none
          destination := destination
          port := target.port } := by
  obtain ⟨hlogin, host, hhost⟩ := canLogIn_of_negotiate h
  obtain ⟨destination, hdestination, hread⟩ := exists_destination hhost
  rw [negotiate_eq_exchange hlogin hhost] at h ⊢
  obtain ⟨method, replies, hmethod, hreplies, rfl⟩ := exists_letsThrough h
  have hsent := exchange_of_letsThrough hreplies hmethod host target.port rest
  rw [offered_octetsOf] at hmethod
  refine ⟨method, hmethod, replies, hreplies, rfl, destination, hdestination, ?_⟩
  rw [hsent]
  exact hear?_messages hlogin hmethod hread target.port

theorem negotiate_of_letsThrough {method : UInt8} {replies : Bytes} (hlogin : CanLogIn proxy)
    (hname : CanName target.host) (hmethod : method ∈ offered proxy.credentials)
    (hreplies : LetsThrough method replies) :
    (negotiate proxy target (replies ++ rest)).result = .ok rest := by
  obtain ⟨host, hhost⟩ := exists_encodeHost_iff.2 hname
  rw [← offered_octetsOf] at hmethod
  rw [negotiate_eq_exchange hlogin hhost, exchange_of_letsThrough hreplies hmethod]

/-- However the replies of a proxy arrive, a client is connected just if they let it through by a
method that it has offered: the proxy has then heard the credentials, if it wanted them, and the
target, and the octets after the replies are left. Everything else ends in an error that names the
target. -/
theorem connects_on_replies (proxy : ProxyAddress) (target : Target) (pieces : List Bytes) :
    let outcome := (client proxy target).runPieces pieces
    outcome = negotiate proxy target pieces.flatten ∧
    (∀ rest, outcome.rest target = .ok rest →
      ∃ method ∈ offered proxy.credentials, ∃ replies, LetsThrough method replies ∧
        pieces.flatten = replies ++ rest ∧
        ∃ destination : Destination, destination.IsOf target.host ∧
          hear? method outcome.sent = some {
            methods := offered proxy.credentials
            login := if method = 2 then proxy.credentials else none
            destination := destination
            port := target.port }) ∧
    (CanLogIn proxy → CanName target.host → ∀ method ∈ offered proxy.credentials,
      ∀ replies rest, LetsThrough method replies → pieces.flatten = replies ++ rest →
        outcome.rest target = .ok rest) ∧
    ((∀ rest, outcome.rest target ≠ .ok rest) →
      ∃ reason, outcome.rest target = .error (.proxyHandshakeFailed target.text reason)) := by
  intro outcome
  have houtcome : outcome = negotiate proxy target pieces.flatten :=
    client_runPieces proxy target pieces
  refine ⟨houtcome, fun rest h => ?_,
    fun hlogin hname method hmethod replies rest hreplies hs => ?_, fun h => ?_⟩
  · rw [rest_eq_ok_iff, houtcome] at h
    rw [houtcome]
    exact exists_heard_of_negotiate h
  · rw [rest_eq_ok_iff, houtcome, hs]
    exact negotiate_of_letsThrough hlogin hname hmethod hreplies
  · cases hresult : outcome.result with
    | ok rest => exact absurd (rest_eq_ok_iff.2 hresult) (h rest)
    | error fault =>
        refine ⟨fault.message, ?_⟩
        rw [Outcome.rest, hresult]
        rfl

/-- A login, an address of sixteen octets, and a reply with a name that comes in four pieces. -/
theorem connects_on_replies_in_pieces :
    let proxy : ProxyAddress := {
      scheme := .socks5, host := "127.0.0.1", port := 1080, username := some "ops"
      password := some "pw" }
    let target : Target := ⟨"fe80::1", 2222⟩
    let outcome := (client proxy target).runPieces
      [[5], [2, 1, 0, 5, 0], [0, 3, 2, 104, 49, 31], [144, 83, 83, 72]]
    outcome.rest target = .ok [83, 83, 72] ∧
      hear? 2 outcome.sent = some {
        methods := [0, 2]
        login := some ("ops", "pw")
        destination := .address (.v6 [254, 128, 0, 0, 0, 0, 0, 0, 0, 0, 0, 0, 0, 0, 0, 1])
        port := 2222 } := by
  intro proxy target outcome
  have hlogin : CanLogIn proxy := by
    intro user password h
    obtain ⟨rfl, rfl⟩ : "ops" = user ∧ "pw" = password := Prod.mk.inj (Option.some.inj h)
    exact ⟨⟨by decide, by decide⟩, ⟨by decide, by decide⟩⟩
  have hname : CanName target.host := .inr (by decide)
  have hreplies := LetsThrough.loggedIn (.name "h1" [31, 144] (by decide) rfl)
  obtain ⟨-, hheard, hlets, -⟩ := connects_on_replies proxy target
    [[5], [2, 1, 0, 5, 0], [0, 3, 2, 104, 49, 31], [144, 83, 83, 72]]
  have hok := hlets hlogin hname 2 (by decide) _ [83, 83, 72] hreplies (by decide)
  obtain ⟨method, -, replies, hmethod, hstream, destination, hdestination, hhear⟩ := hheard _ hok
  obtain rfl : method = 2 := by
    cases hmethod with
    | openly => simp at hstream
    | loggedIn => rfl
  have hspells : IpAddress.parse? target.host.toList =
      some (.v6 [254, 128, 0, 0, 0, 0, 0, 0, 0, 0, 0, 0, 0, 0, 0, 1]) := by decide
  refine ⟨hok, hhear.trans ?_⟩
  cases hdestination with
  | address spelled =>
      obtain rfl := Option.some.inj (hspells.symm.trans (IpAddress.parse?_eq_some_iff.2 spelled))
      rfl
  | name plain => exact absurd (IpAddress.parse?_eq_some_iff.1 hspells) (plain _)

end SshTunnel.Proxy
