import Mathlib.Data.List.Basic
import SshTunnel.Proofs.Except
import SshTunnel.Proxy.Negotiation

/-!
# The negotiation step by step

A client of a proxy sends octets and receives given numbers of octets (`Dialogue`). What the proxy
sends comes in pieces, of which a client takes no more than it asks for (`Dialogue.runPieces`).
However the stream is cut, the client of a proxy address does what `negotiate` says of the whole
stream (`client_runPieces`).
-/

namespace SshTunnel.Proxy

/-- What a client does: it sends, it receives so many octets and goes on by what they are, and in
the end its connection is open or it has failed. -/
inductive Dialogue where
  | opened
  | failed (fault : Fault)
  | send (octets : Bytes) (next : Dialogue)
  | receive (count : Nat) (next : Bytes → Dialogue)

def Outcome.after (octets : Bytes) (o : Outcome) : Outcome :=
  ⟨octets ++ o.sent, o.result⟩

def receiveAll : Nat → List Bytes → Except Fault (Bytes × List Bytes)
  | 0, pieces => .ok ([], pieces)
  | _ + 1, [] => .error .endOfStream
  | n + 1, piece :: pieces =>
      if n + 1 < piece.length then .ok (piece.take (n + 1), piece.drop (n + 1) :: pieces)
      else (receiveAll (n + 1 - piece.length) pieces).map fun (octets, left) =>
        (piece ++ octets, left)

namespace Dialogue

def run : Dialogue → Bytes → Outcome
  | opened, s => ⟨[], .ok s⟩
  | failed fault, _ => ⟨[], .error fault⟩
  | send octets next, s => (next.run s).after octets
  | receive count next, s =>
      match Proxy.receive count s with
      | .ok (octets, s) => (next octets).run s
      | .error fault => ⟨[], .error fault⟩

def runPieces : Dialogue → List Bytes → Outcome
  | opened, pieces => ⟨[], .ok pieces.flatten⟩
  | failed fault, _ => ⟨[], .error fault⟩
  | send octets next, pieces => (next.runPieces pieces).after octets
  | receive count next, pieces =>
      match receiveAll count pieces with
      | .ok (octets, pieces) => (next octets).runPieces pieces
      | .error fault => ⟨[], .error fault⟩

/-! ## The client -/

def address (kind : UInt8) : Dialogue :=
  if kind = 1 then .receive 6 fun _ => .opened
  else if kind = 4 then .receive 18 fun _ => .opened
  else if kind = 3 then
    .receive 1 fun head => .receive ((head.headD 0).toNat + 2) fun tail =>
      match Text.Utf8.decode (tail.take (tail.length - 2)) with
      | .ok _ => .opened
      | .error _ => .failed .badDomain
  else .failed .unknownAddressKind

def reply : Dialogue :=
  .receive 4 fun head =>
    match head with
    | [version, code, reserved, kind] =>
        if version ≠ 5 then .failed .badVersion
        else if reserved ≠ 0 then .failed .badReserved
        else if code ≠ 0 then .failed (.refused code)
        else address kind
    | _ => .failed .endOfStream

def ask (host : Bytes) (port : UInt16) : Dialogue :=
  .send (request host port) reply

def logIn (message : Bytes) (next : Dialogue) : Dialogue :=
  .send message <| .receive 2 fun head =>
    match head with
    | [version, status] =>
        if version ≠ 1 then .failed .badVersion
        else if status ≠ 0 then .failed (.loginRefused status)
        else next
    | _ => .failed .endOfStream

def proceed (credentials : Option (Bytes × Bytes)) (next : Dialogue) (method : UInt8) : Dialogue :=
  match answerMethod credentials method with
  | .error fault => .failed fault
  | .ok none => next
  | .ok (some message) => logIn message next

def greet (credentials : Option (Bytes × Bytes)) (next : Dialogue) : Dialogue :=
  .send (greeting credentials) <| .receive 2 fun head =>
    match head with
    | [version, method] =>
        if version = 5 then proceed credentials next method else .failed .badVersion
    | _ => .failed .endOfStream

end Dialogue

def client (proxy : ProxyAddress) (target : Target) : Dialogue :=
  match encodeCredentials proxy.credentials with
  | .error fault => .failed fault
  | .ok credentials =>
      match encodeHost target.host with
      | .error fault => .failed fault
      | .ok host => .greet credentials (.ask host target.port)

/-! ## Pieces -/

theorem receive_eq_ok_iff {n : Nat} {s a b : Bytes} :
    receive n s = .ok (a, b) ↔ a.length = n ∧ s = a ++ b := by
  rw [← Bytes.take?_eq_some_iff, receive]
  cases Bytes.take? n s <;> simp

theorem receive_eq_error {n : Nat} {s : Bytes} (h : s.length < n) :
    receive n s = .error .endOfStream := by
  rw [receive, Bytes.take?_eq_none_iff.2 h]

theorem receive_append_of_le {n : Nat} {a : Bytes} (h : a.length ≤ n) (b : Bytes) :
    receive n (a ++ b) =
      (receive (n - a.length) b).map fun (octets, left) => (a ++ octets, left) := by
  cases hrest : receive (n - a.length) b with
  | ok found =>
      obtain ⟨octets, left⟩ := found
      obtain ⟨hlength, rfl⟩ := receive_eq_ok_iff.1 hrest
      have hwhole : (a ++ octets).length = n := by
        rw [List.length_append]
        omega
      exact receive_eq_ok_iff.2 ⟨hwhole, (List.append_assoc a octets left).symm⟩
  | error fault =>
      have hshort : b.length < n - a.length := by
        by_contra hlong
        rw [receive_eq_ok_iff.2 ⟨by simp; omega, (List.take_append_drop (n - a.length) b).symm⟩]
          at hrest
        cases hrest
      have hwhole : (a ++ b).length < n := by
        rw [List.length_append]
        omega
      rw [receive_eq_error hshort] at hrest
      rw [receive_eq_error hwhole, ← hrest]
      rfl

/-- Neither what is received nor what is left depends on how a stream is cut. -/
theorem receiveAll_flatten (n : Nat) (pieces : List Bytes) :
    (receiveAll n pieces).map (fun (octets, left) => (octets, left.flatten)) =
      receive n pieces.flatten := by
  induction pieces generalizing n with
  | nil => cases n <;> rfl
  | cons piece pieces ih =>
      cases n with
      | zero => exact (receive_eq_ok_iff.2 ⟨rfl, rfl⟩).symm
      | succ n =>
          rw [receiveAll, List.flatten_cons]
          split
          · next hlt =>
              refine (receive_eq_ok_iff.2 ⟨?_, ?_⟩).symm
              · rw [List.length_take]
                omega
              · rw [List.flatten_cons, ← List.append_assoc, List.take_append_drop]
          · next hle =>
              rw [receive_append_of_le (Nat.le_of_not_lt hle), ← ih]
              cases receiveAll (n + 1 - piece.length) pieces <;> rfl

theorem Dialogue.runPieces_eq_run (d : Dialogue) (pieces : List Bytes) :
    d.runPieces pieces = d.run pieces.flatten := by
  induction d generalizing pieces with
  | opened => rfl
  | failed fault => rfl
  | send octets next ih => rw [runPieces, run, ih]
  | receive count next ih =>
      rw [runPieces, run, ← receiveAll_flatten]
      cases receiveAll count pieces with
      | error fault => rfl
      | ok found => exact ih _ _

/-! ## The client and the whole stream -/

namespace Dialogue

theorem run_receive_then_opened (count : Nat) (s : Bytes) :
    (receive count fun _ => opened).run s = ⟨[], (·.2) <$> Proxy.receive count s⟩ := by
  rw [run]
  cases Proxy.receive count s <;> rfl

theorem run_address (kind : UInt8) (s : Bytes) :
    (address kind).run s = ⟨[], skipAddress kind s⟩ := by
  rw [address, skipAddress]
  split
  · exact run_receive_then_opened 6 s
  split
  · exact run_receive_then_opened 18 s
  split
  · rw [run, skipName]
    cases hhead : Proxy.receive 1 s with
    | error fault => rfl
    | ok head =>
        simp only [run, bind, Except.bind]
        cases Proxy.receive ((head.1.headD 0).toNat + 2) head.2 with
        | error fault => rfl
        | ok tail =>
            dsimp only
            cases Text.Utf8.decode (tail.1.take (tail.1.length - 2)) <;> rfl
  · rfl

theorem run_reply (s : Bytes) : reply.run s = ⟨[], readReply s⟩ := by
  rw [reply, run, readReply]
  cases hreceive : Proxy.receive 4 s with
  | error fault => rfl
  | ok found =>
      obtain ⟨head, rest⟩ := found
      obtain ⟨version, code, reserved, kind, rfl⟩ :=
        List.length_eq_four.1 (receive_eq_ok_iff.1 hreceive).1
      simp only [bind, Except.bind]
      by_cases hversion : version ≠ 5
      · rw [if_pos hversion, if_pos hversion]
        rfl
      by_cases hreserved : reserved ≠ 0
      · rw [if_neg hversion, if_neg hversion, if_pos hreserved, if_pos hreserved]
        rfl
      by_cases hcode : code ≠ 0
      · rw [if_neg hversion, if_neg hversion, if_neg hreserved, if_neg hreserved,
          if_pos hcode, if_pos hcode]
        rfl
      · rw [if_neg hversion, if_neg hversion, if_neg hreserved, if_neg hreserved,
          if_neg hcode, if_neg hcode, run_address]

theorem run_ask (host : Bytes) (port : UInt16) (s : Bytes) :
    (ask host port).run s = finish [] host port s := by
  rw [ask, run, run_reply, finish, List.nil_append, Outcome.after, List.append_nil]

theorem run_logIn (message : Bytes) (next : Dialogue) (s : Bytes) :
    (logIn message next).run s =
      match readStatus s with
      | .ok rest => (next.run rest).after message
      | .error fault => ⟨message, .error fault⟩ := by
  rw [logIn, run, run, readStatus]
  cases hreceive : Proxy.receive 2 s with
  | error fault => simp [bind, Except.bind, Outcome.after]
  | ok found =>
      obtain ⟨head, rest⟩ := found
      obtain ⟨version, status, rfl⟩ := List.length_eq_two.1 (receive_eq_ok_iff.1 hreceive).1
      simp only [bind, Except.bind]
      by_cases hversion : version ≠ 1
      · rw [if_pos hversion, if_pos hversion, run, Outcome.after, List.append_nil]
        rfl
      by_cases hstatus : status ≠ 0
      · rw [if_neg hversion, if_neg hversion, if_pos hstatus, if_pos hstatus, run,
          Outcome.after, List.append_nil]
        rfl
      · rw [if_neg hversion, if_neg hversion, if_neg hstatus, if_neg hstatus]
        rfl

theorem run_greet (credentials : Option (Bytes × Bytes)) (host : Bytes) (port : UInt16)
    (s : Bytes) : (greet credentials (ask host port)).run s = exchange credentials host port s := by
  have hfinish (sent octets s : Bytes) :
      (finish sent host port s).after octets = finish (octets ++ sent) host port s := by
    simp only [finish, Outcome.after, List.append_assoc]
  rw [greet, run, run, exchange, readMethod]
  cases hreceive : Proxy.receive 2 s with
  | error fault => simp [bind, Except.bind, Outcome.after]
  | ok found =>
      obtain ⟨head, rest⟩ := found
      obtain ⟨version, method, rfl⟩ := List.length_eq_two.1 (receive_eq_ok_iff.1 hreceive).1
      simp only [bind, Except.bind]
      by_cases hversion : version = 5
      · rw [if_pos hversion, if_pos hversion, proceed]
        simp only [pure, Except.pure]
        cases answerMethod credentials method with
        | error fault => simp [run, Outcome.after]
        | ok message =>
            cases message with
            | none => simp [run_ask, hfinish]
            | some message =>
                simp only [run_logIn, run_ask]
                cases readStatus rest with
                | error fault => rfl
                | ok rest => simp [hfinish]
      · rw [if_neg hversion, if_neg hversion, run, Outcome.after, List.append_nil]
        rfl

end Dialogue

/-- However the stream is cut, the client does what is told of the whole stream. -/
theorem client_runPieces (proxy : ProxyAddress) (target : Target) (pieces : List Bytes) :
    (client proxy target).runPieces pieces = negotiate proxy target pieces.flatten := by
  rw [Dialogue.runPieces_eq_run, client, negotiate]
  cases encodeCredentials proxy.credentials with
  | error fault => rfl
  | ok credentials =>
      cases encodeHost target.host with
      | error fault => rfl
      | ok host => exact Dialogue.run_greet credentials host target.port pieces.flatten

end SshTunnel.Proxy
