import SshTunnel.Proofs.Mux.Layout
import SshTunnel.Proofs.Mux.Steps

/-!
# The window that the client grants

The master starts with a window too, and is granted more of it as it uses it up. As long as the
master keeps within its window (`KeepsWithin`), what it has used up is what has been given back to
it and what the pump counts (`Runs.credited`). So the count stays below the window, and never goes
beyond its word.
-/

namespace SshTunnel.Mux.Line

/-- How much of its window the master has used up. -/
def receivedOf (events : List Event) : Nat :=
  ((readOf events).map Inbound.size).sum

@[simp] theorem receivedOf_append (events events' : List Event) :
    receivedOf (events ++ events') = receivedOf events + receivedOf events' := by
  simp [receivedOf]

theorem receivedOf_received {body : Bytes} {m : Inbound} (step : Step)
    (read : Inbound.ofFrame body = .ok m) :
    receivedOf (.received body :: eventsOf step) = m.size := by
  simp [receivedOf, readOf_received step read]

theorem receivedOf_singleton {body : Bytes} {m : Inbound} (read : Inbound.ofFrame body = .ok m) :
    receivedOf [.received body] = m.size := by
  simp [receivedOf, readOf, read, Except.toOption]

def masterWindow (events : List Event) : Int :=
  localWindow.toNat + creditOf (sentOf events) - receivedOf events

/-- The master never sends more than the window it holds. -/
def KeepsWithin (events : List Event) : Prop :=
  ∀ before body after, events = before ++ .received body :: after →
    receivedOf [.received body] ≤ masterWindow before

variable {c : RemoteChannel} {events moved : List Event} {line line' : Line}
  {next : Except Ending Line}

theorem KeepsWithin.of_append (h : KeepsWithin (events ++ moved)) : KeepsWithin events := by
  intro before body after hevents
  exact h before body (after ++ moved) (by rw [hevents, List.append_assoc, List.cons_append])

theorem keepsWithin_nil : KeepsWithin [] := by
  intro before body after hevents
  simp at hevents

theorem KeepsWithin.receive (h : KeepsWithin events) {body : Bytes}
    (hbody : receivedOf [.received body] ≤ masterWindow events) (hmoved : framesOf moved = []) :
    KeepsWithin (events ++ .received body :: moved) := by
  intro before body' after hevents
  -- The frame that is asked about is the new one, or one of the frames before it.
  rcases List.append_eq_append_iff.1 hevents with ⟨rest, rfl, hrest⟩ | ⟨rest, rfl, hrest⟩
  · cases rest with
    | nil =>
        obtain ⟨hbody', -⟩ := List.cons.inj hrest
        rw [List.append_nil, ← hbody']
        exact hbody
    | cons e rest =>
        obtain ⟨-, rfl⟩ := List.cons.inj hrest
        simp at hmoved
  · cases rest with
    | nil =>
        obtain ⟨hbody', -⟩ := List.cons.inj hrest
        rw [List.append_nil] at hbody
        rw [hbody']
        exact hbody
    | cons e rest =>
        obtain ⟨rfl, -⟩ := List.cons.inj hrest
        exact h before body' rest rfl

/-- What the master has used up is what has been given back to it and what the pump counts. -/
structure Credited (events : List Event) (p : Pump) : Prop where
  balance : creditOf (sentOf events) + p.consumed.toNat = receivedOf events
  bound : p.consumed.toNat ≤ localWindow.toNat

/-- A frame that keeps within the window does not bring the count beyond it. -/
theorem Credited.room {p : Pump} (h : Credited events p) {body : Bytes}
    (within : receivedOf [.received body] ≤ masterWindow events) :
    p.consumed.toNat + receivedOf [.received body] ≤ localWindow.toNat := by
  have hbalance := h.balance
  rw [masterWindow] at within
  omega

theorem toNat_add_of_le {a : UInt32} {n : Nat} (h : a.toNat + n ≤ localWindow.toNat) :
    (a + n.toUInt32).toNat = a.toNat + n := by
  have hwindow : localWindow.toNat = 2097152 := rfl
  have hn : n.toUInt32.toNat = n :=
    UInt32.toNat_ofNat_of_lt' (Nat.lt_of_le_of_lt (by omega : n ≤ 2097152) (by decide))
  rw [UInt32.toNat_add, hn]
  omega

theorem creditOf_endLocal (p : Pump) : creditOf p.endLocal.sent = 0 := by
  cases hremote : p.remoteEof <;> simp [Pump.endLocal, hremote]

theorem Moves.credited (move : Moves line moved next) (hnext : next = .ok line')
    (h : Credited events line.pump) (within : KeepsWithin (events ++ moved)) :
    Credited (events ++ moved) line'.pump := by
  cases move with
  | take octets rest looks front nonempty fits =>
      obtain rfl := Except.ok.inj hnext
      exact ⟨by simpa [receivedOf, Pump.takeLocal] using h.balance, h.bound⟩
  | finish looks =>
      obtain rfl := Except.ok.inj hnext
      exact ⟨by simpa [receivedOf, creditOf_endLocal] using h.balance, h.bound⟩
  | receive body =>
      have hroom := h.room (within events body _ rfl)
      obtain ⟨m, p', read, handles, rfl⟩ := handles_of_after hnext
      -- The count and the frame together keep within the window, so their sum does not wrap.
      rw [receivedOf_singleton read] at hroom
      have hcredit := handles.credit
      rw [toNat_add_of_le hroom] at hcredit
      have hbalance := h.balance
      refine ⟨?_, by change p'.consumed.toNat ≤ _; omega⟩
      rw [sentOf_append, creditOf_append, sentOf_cons, sentOf_eventsOf, receivedOf_append,
        receivedOf_received _ read, ← hbalance]
      change _ + creditOf (line.pump.receiveFrame body).sent + p'.consumed.toNat = _
      omega
  | write | shutdown | drop =>
      obtain rfl := Except.ok.inj hnext
      exact ⟨by simpa [receivedOf] using h.balance, h.bound⟩
  | disconnect | breakOff => cases hnext

theorem Runs.credited (run : Runs c events (.ok line)) (within : KeepsWithin events) :
    Credited events line.pump := by
  generalize hnext : Except.ok line = next at run
  induction run generalizing line with
  | opened =>
      obtain rfl := Except.ok.inj hnext
      exact ⟨rfl, by simp [Pump.ofChannel]⟩
  | move run move ih => exact move.credited hnext.symm (ih within.of_append rfl) within

theorem Moves.windowAdjust (move : Moves line moved next) {channel amount : UInt32}
    (hm : .windowAdjust channel amount ∈ sentOf moved) : 0 < amount := by
  cases move with
  | take octets rest looks front nonempty fits => simp [Pump.takeLocal] at hm
  | finish looks =>
      rw [sentOf_eventsOf] at hm
      rcases Pump.eof_or_answers_of_mem_endLocal hm with heof | hanswers
      · cases heof
      · cases hanswers with
        | windowAdjust _ positive => exact positive
  | receive body =>
      cases answers_of_mem_sentOf hm with
      | windowAdjust _ positive => exact positive
  | _ => simp at hm

theorem Runs.windowAdjust (run : Runs c events next) {channel amount : UInt32}
    (hm : .windowAdjust channel amount ∈ sentOf events) : 0 < amount := by
  obtain ⟨before, line, moved, next', -, move, hm⟩ := run.move_of_mem_sentOf hm
  exact move.windowAdjust hm

theorem Moves.creditOf_of_ending (move : Moves line moved next) {ending : Ending}
    (hnext : next = .error ending) : creditOf (sentOf moved) = 0 := by
  cases move with
  | take octets rest looks front nonempty fits => cases hnext
  | finish looks => cases hnext
  | receive body =>
      have houtcome := line.pump.receiveFrame_outcome body
      generalize line.pump.receiveFrame body = step at houtcome hnext ⊢
      cases houtcome with
      | malformed unread => simp
      | ended read ends => simp
      | handled read handles =>
          rw [after_of_ok handles.next] at hnext
          cases hnext
  | _ => rfl

theorem Runs.creditOf_le (run : Runs c events next) (within : KeepsWithin events) :
    creditOf (sentOf events) ≤ receivedOf events := by
  cases hnext : next with
  | ok line =>
      subst hnext
      have hbalance := (run.credited within).balance
      omega
  | error ending =>
      cases run with
      | opened => cases hnext
      | move run move =>
          have hbalance := (run.credited within.of_append).balance
          have hnone := move.creditOf_of_ending hnext
          rw [sentOf_append, creditOf_append, receivedOf_append, hnone]
          omega

/-- As long as the master keeps within its window, what has been given back to it and what the pump
counts is just what the master has used up. The count never exceeds the window, not even with the
next frame, so no sum goes beyond its word. What is given back is never nothing, and never brings
the master's window above the one it started with. -/
theorem Runs.conserves_credit (run : Runs c events next) (within : KeepsWithin events) :
    (∀ line, next = .ok line →
      creditOf (sentOf events) + line.pump.consumed.toNat = receivedOf events ∧
      line.pump.consumed ≤ localWindow) ∧
    (∀ line body, next = .ok line → receivedOf [.received body] ≤ masterWindow events →
      line.pump.consumed.toNat + receivedOf [.received body] ≤ localWindow.toNat ∧
      (line.pump.consumed + (receivedOf [.received body]).toUInt32).toNat =
        line.pump.consumed.toNat + receivedOf [.received body]) ∧
    (∀ channel amount, .windowAdjust channel amount ∈ sentOf events → 0 < amount) ∧
    masterWindow events ≤ localWindow.toNat := by
  refine ⟨?_, ?_, fun channel amount hm => run.windowAdjust hm, ?_⟩
  · rintro line rfl
    have h := run.credited within
    exact ⟨h.balance, UInt32.le_iff_toNat_le.2 h.bound⟩
  · rintro line body rfl hwithin
    have hroom := (run.credited within).room hwithin
    exact ⟨hroom, toNat_add_of_le hroom⟩
  · have hle := run.creditOf_le within
    rw [masterWindow]
    omega

theorem conserves_credit_of_half_window :
    ∃ payload events line, payload.length = 1048576 ∧ Runs ⟨7, 100, 32768⟩ events (.ok line) ∧
      deliveredOf events = payload ∧ sentOf events = [.windowAdjust 7 1048576] ∧
      KeepsWithin events ∧
      creditOf (sentOf events) + line.pump.consumed.toNat = receivedOf events := by
  obtain ⟨payload, hlength⟩ : ∃ s : Bytes, s.length = 1048576 :=
    ⟨List.replicate 1048576 0, List.length_replicate⟩
  obtain ⟨body, hread⟩ : ∃ body, Inbound.ofFrame body = .ok (.data payload) :=
    ⟨_, ofFrame_eq_ok_iff.2 (.data 0 payload [] (by omega))⟩
  have hstep : (Pump.ofChannel ⟨7, 100, 32768⟩).receiveFrame body =
      { sent := [.windowAdjust 7 1048576]
        delivered := payload
        next := .ok (.ofChannel ⟨7, 100, 32768⟩) } := by
    simp [Pump.receiveFrame, hread, Pump.receive, Pump.receiveData, Pump.pipeTakes,
      Pump.ofChannel, hlength, localWindow]
  have run := (Runs.opened (c := ⟨7, 100, 32768⟩)).move (.receive body)
  simp only [hstep] at run
  have hbody : receivedOf [.received body] ≤ masterWindow [] := by
    simp [masterWindow, receivedOf, readOf, hread, Except.toOption, hlength, localWindow]
  have within (step : Step) := keepsWithin_nil.receive hbody (framesOf_eventsOf step)
  exact ⟨payload, _, _, hlength, run, by simp, by simp, within _,
    ((run.conserves_credit (within _)).1 _ rfl).1⟩

end SshTunnel.Mux.Line
