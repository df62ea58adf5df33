import SshTunnel.Proofs.Mux.Credit
import SshTunnel.Proofs.Mux.Flags

/-!
# The window that the master is left with

A master that has just sent data holds more than half of its window, because the pump gives back
what it has counted as soon as that comes to half. This is so after every frame of data for the
caller. Extended data is counted too, but nothing is given back for it: after such a frame the
master is left with just what it had not used up (`masterWindow_of_extendedData`). So the master is
left with more than half throughout a run if and only if no frame of extended data takes it to half
(`Runs.supplied_iff`).
-/

namespace SshTunnel.Mux

/-- Whether a message uses up window of the master. -/
@[simp] def Inbound.isSized : Inbound → Bool
  | data _ | extendedData _ => true
  | _ => false

theorem Pump.consumed_of_receiveData {p p' : Pump} {payload : Bytes}
    (h : (p.receiveData payload).next = .ok p') : p'.consumed < localWindow / 2 := by
  rcases p.receiveData_cases payload with ⟨-, hstep⟩ | ⟨-, hhalf, hstep⟩ | ⟨-, -, hstep⟩
  · rw [hstep] at h
    cases h
  · rw [hstep] at h
    obtain rfl := Except.ok.inj h
    exact hhalf
  · rw [hstep] at h
    obtain rfl := Except.ok.inj h
    exact (by decide : (0 : UInt32) < localWindow / 2)

theorem Pump.receiveFrame_of_extendedData (p : Pump) {body payload : Bytes}
    (read : Inbound.ofFrame body = .ok (.extendedData payload)) :
    p.receiveFrame body =
      { next := .ok { p with consumed := p.consumed + payload.length.toUInt32 } } := by
  simp [receiveFrame, read, receive]

namespace Line

variable {c : RemoteChannel} {events : List Event} {line : Line} {next : Except Ending Line}
  {body payload : Bytes}

/-- The pump has just handled a frame that carries `m`, and goes on. -/
inductive HasHandled (c : RemoteChannel) (m : Inbound) : List Event → Line → Prop
  | mk {before : List Event} {line : Line} {body : Bytes} {p' : Pump}
      (run : Runs c before (.ok line)) (read : Inbound.ofFrame body = .ok m)
      (goesOn : (line.pump.receiveFrame body).next = .ok p') :
      HasHandled c m (before ++ .received body :: eventsOf (line.pump.receiveFrame body))
        { line with pump := p' }

theorem HasHandled.runs {m : Inbound} (h : HasHandled c m events line) :
    Runs c events (.ok line) := by
  cases h with
  | mk run read goesOn =>
      rw [← after_of_ok goesOn]
      exact run.move (.receive _)

/-- Less than half of the window waits to be given back, and the master holds more than half. -/
structure Ample (events : List Event) (p : Pump) : Prop where
  count : p.consumed < localWindow / 2
  room : ((localWindow / 2).toNat : Int) < masterWindow events

theorem Credited.masterWindow_eq {p : Pump} (h : Credited events p) :
    masterWindow events = localWindow.toNat - p.consumed.toNat := by
  have hbalance := h.balance
  rw [masterWindow]
  omega

/-- Half of the window waits to be given back iff the other half is all that the master holds. -/
theorem Credited.count_iff_room {p : Pump} (h : Credited events p) :
    p.consumed < localWindow / 2 ↔ ((localWindow / 2).toNat : Int) < masterWindow events := by
  have hhalf : (localWindow / 2).toNat = 1048576 := rfl
  have hwindow : localWindow.toNat = 2097152 := rfl
  rw [h.masterWindow_eq, UInt32.lt_iff_toNat_lt, hhalf, hwindow]
  omega

theorem Credited.ample_of_count {p : Pump} (h : Credited events p)
    (count : p.consumed < localWindow / 2) : Ample events p :=
  ⟨count, h.count_iff_room.1 count⟩

theorem Credited.ample_of_room {p : Pump} (h : Credited events p)
    (room : ((localWindow / 2).toNat : Int) < masterWindow events) : Ample events p :=
  ⟨h.count_iff_room.2 room, room⟩

theorem HasHandled.ample_of_data (h : HasHandled c (.data payload) events line)
    (within : KeepsWithin events) : Ample events line.pump := by
  have hcredited := h.runs.credited within
  cases h with
  | @mk before line body p' run read goesOn =>
      have hreceive : (line.pump.receiveData payload).next = .ok p' := by
        simpa [Pump.receiveFrame, read, Pump.receive] using goesOn
      exact hcredited.ample_of_count (Pump.consumed_of_receiveData hreceive)

theorem masterWindow_of_extendedData (p : Pump)
    (read : Inbound.ofFrame body = .ok (.extendedData payload)) :
    masterWindow (events ++ .received body :: eventsOf (p.receiveFrame body)) =
      masterWindow events - payload.length := by
  have hsent : sentOf (.received body :: eventsOf (p.receiveFrame body)) = [] := by
    simp [p.receiveFrame_of_extendedData read]
  rw [masterWindow, masterWindow, sentOf_append, hsent, List.append_nil, receivedOf_append,
    receivedOf_received _ read]
  simp only [Inbound.size]
  omega

theorem Runs.extendedData (run : Runs c events (.ok line)) (within : KeepsWithin events)
    (read : Inbound.ofFrame body = .ok (.extendedData payload))
    (room : payload.length ≤ masterWindow events) :
    ∃ moved line', HasHandled c (.extendedData payload) (events ++ moved) line' ∧
      line'.pump = { line.pump with consumed := line.pump.consumed + payload.length.toUInt32 } ∧
      KeepsWithin (events ++ moved) ∧ framesOf moved = [body] ∧ sentOf moved = [] ∧
      masterWindow (events ++ moved) = masterWindow events - payload.length := by
  have hstep := line.pump.receiveFrame_of_extendedData read
  refine ⟨_, _, .mk run read (by rw [hstep]), rfl, ?_, by simp, by simp [hstep],
    masterWindow_of_extendedData line.pump read⟩
  refine within.receive ?_ (framesOf_eventsOf _)
  rw [receivedOf_singleton read]
  exact room

/-- After a frame of data for the caller the master holds more than half of its window. It does so
after every frame that uses up window if and only if no frame of extended data takes it to half. -/
theorem Runs.supplied_iff (run : Runs c events next) (within : KeepsWithin events) :
    (∀ before line payload, before <+: events → HasHandled c (.data payload) before line →
      Ample before line.pump) ∧
    ((∀ before line m, before <+: events → HasHandled c m before line → m.isSized = true →
        Ample before line.pump) ↔
      ∀ before body after payload, events = before ++ .received body :: after →
        Inbound.ofFrame body = .ok (.extendedData payload) →
          ((localWindow / 2).toNat : Int) + payload.length < masterWindow before) := by
  have hdata : ∀ before line payload, before <+: events → HasHandled c (.data payload) before line →
      Ample before line.pump := by
    rintro before line payload ⟨after, rfl⟩ handled
    exact handled.ample_of_data within.of_append
  refine ⟨hdata, ?_, ?_⟩
  · intro supplied before body after payload hevents read
    obtain ⟨line, rest, run', rfl⟩ := run.of_received hevents
    have handled : HasHandled c (.extendedData payload) _ _ :=
      .mk run' read (by rw [line.pump.receiveFrame_of_extendedData read])
    have hroom := (supplied _ _ _ ⟨rest, by simp [hevents]⟩ handled rfl).room
    rw [masterWindow_of_extendedData line.pump read] at hroom
    omega
  · intro spared before line m hfront handled hsized
    cases m with
    | data payload => exact hdata before line payload hfront handled
    | extendedData payload =>
        obtain ⟨after, rfl⟩ := hfront
        have hcredited := handled.runs.credited within.of_append
        cases handled with
        | @mk before line body p' run' read goesOn =>
            have hspared := spared before body
              (eventsOf (line.pump.receiveFrame body) ++ after) payload (by simp) read
            refine hcredited.ample_of_room ?_
            rw [masterWindow_of_extendedData line.pump read]
            omega
    | _ => simp at hsized

/-- What extended data has used up is given back with the next data. -/
theorem supplied_after_data :
    ∃ events line, HasHandled ⟨7, 100, 32768⟩ (.data [65]) events line ∧ KeepsWithin events ∧
      sentOf events = [.windowAdjust 7 1048577] ∧ Ample events line.pump := by
  obtain ⟨payload, body, hlength, hread⟩ := exists_extendedData (by decide : 1048576 < 2 ^ 32)
  have hopened : masterWindow [] = 2097152 := rfl
  obtain ⟨moved, line, handled, hpump, within, -, hsent, hwindow⟩ :=
    (Runs.opened (c := ⟨7, 100, 32768⟩)).extendedData keepsWithin_nil hread
      (by rw [hlength, hopened]; decide)
  rw [hlength, hopened] at hwindow
  have hread' : Inbound.ofFrame [94, 0, 0, 0, 0, 0, 0, 0, 1, 65] = .ok (.data [65]) := rfl
  have hstep : line.pump.receiveFrame [94, 0, 0, 0, 0, 0, 0, 0, 1, 65] =
      { sent := [.windowAdjust 7 1048577]
        delivered := [65]
        next := .ok (.ofChannel ⟨7, 100, 32768⟩) } := by
    rw [hpump, hlength]
    rfl
  have handled' := HasHandled.mk handled.runs hread' (by rw [hstep])
  have hroom : receivedOf [.received [94, 0, 0, 0, 0, 0, 0, 0, 1, 65]] ≤ masterWindow moved := by
    rw [receivedOf_singleton hread', ← List.nil_append moved, hwindow]
    decide
  have within' := within.receive hroom (framesOf_eventsOf (line.pump.receiveFrame
    [94, 0, 0, 0, 0, 0, 0, 0, 1, 65]))
  refine ⟨_, _, handled', within', by simp [hsent, hstep], ?_⟩
  exact (handled'.runs.supplied_iff within').1 _ _ _ (List.prefix_refl _) handled'

/-- As long as nothing but extended data comes, what it uses up of the window is gone. -/
theorem exists_runs_extendedData (c : RemoteChannel)
    (read : Inbound.ofFrame body = .ok (.extendedData payload)) (n : Nat)
    (room : n * payload.length ≤ localWindow.toNat) :
    ∃ events line, Runs c events (.ok line) ∧ KeepsWithin events ∧
      framesOf events = List.replicate n body ∧ sentOf events = [] ∧
      masterWindow events = localWindow.toNat - (n * payload.length : Nat) := by
  induction n with
  | zero => exact ⟨[], _, .opened, keepsWithin_nil, rfl, rfl, by simp [masterWindow, receivedOf]⟩
  | succ n ih =>
      rw [Nat.succ_mul] at room
      obtain ⟨events, line, run, within, hframes, hsent, hwindow⟩ := ih (by omega)
      obtain ⟨moved, line', handled, -, within', hframes', hsent', hwindow'⟩ :=
        run.extendedData within read (by omega)
      refine ⟨events ++ moved, line', handled.runs, within', ?_, by simp [hsent, hsent'], ?_⟩
      · rw [framesOf_append, hframes, hframes', List.replicate_succ']
      · rw [hwindow', hwindow, Nat.succ_mul]
        omega

/-- Sixty-four frames of extended data, each no longer than the master may make it, use up its
window, and nothing of it has been given back. -/
theorem starved_by_extendedData :
    ∃ payload body events line, payload.length = 32768 ∧
      Inbound.ofFrame body = .ok (.extendedData payload) ∧
      HasHandled ⟨7, 65536, 32768⟩ (.extendedData payload) events line ∧ KeepsWithin events ∧
      framesOf events = List.replicate 64 body ∧ sentOf events = [] ∧
      masterWindow events = 0 ∧ ¬ line.pump.consumed < localWindow / 2 := by
  obtain ⟨payload, body, hlength, hread⟩ := exists_extendedData (by decide : 32768 < 2 ^ 32)
  obtain ⟨events, line, run, within, hframes, hsent, hwindow⟩ :=
    exists_runs_extendedData ⟨7, 65536, 32768⟩ hread 63 (by rw [hlength]; decide)
  have hleft : masterWindow events = 32768 := by
    rw [hwindow, hlength]
    rfl
  obtain ⟨moved, line', handled, -, within', hframes', hsent', hwindow'⟩ :=
    run.extendedData within hread (by omega)
  have hnone : masterWindow (events ++ moved) = 0 := by omega
  refine ⟨payload, body, _, line', hlength, hread, handled, within', ?_, by simp [hsent, hsent'],
    hnone, ?_⟩
  · rw [framesOf_append, hframes, hframes', ← List.replicate_succ']
  · rw [(handled.runs.credited within').count_iff_room, hnone]
    decide

end Line

end SshTunnel.Mux
