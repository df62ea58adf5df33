import SshTunnel.Proofs.Mux.Layout
import SshTunnel.Proofs.Mux.Upload

/-!
# Data on its way to the caller

`Downloads` says which octets the caller gets from the frames of the master: the data of those that
precede the first one that stops it. A line delivers just these (`Runs.delivers`), whatever else
happens at it, unless the caller gives up its end of the pipe.
-/

namespace SshTunnel.Mux.Line

/-! ## What frames bring -/

/-- A frame stops the data of the master: it tells its end, closes the channel, or carries
nothing. -/
def Stops (body : Bytes) : Prop :=
  ∀ m, Carries body m → m = .eof ∨ m = .close

/-- What the caller gets from frames, and whether one of them stops the data. -/
inductive Downloads : List Bytes → Bytes → Bool → Prop
  | nil : Downloads [] [] false
  | pass {body : Bytes} {m : Inbound} {frames : List Bytes} {octets : Bytes} {stopped : Bool}
      (carries : Carries body m) (not_eof : m ≠ .eof) (not_close : m ≠ .close)
      (rest : Downloads frames octets stopped) :
      Downloads (body :: frames) (m.payload ++ octets) stopped
  | stop {body : Bytes} {frames : List Bytes} (stops : Stops body) :
      Downloads (body :: frames) [] true

section Frames

variable {frames frames' : List Bytes} {octets octets' : Bytes} {stopped stopped' : Bool}

theorem Stops.not_pass {body : Bytes} {m : Inbound} (h : Stops body) (carries : Carries body m)
    (not_eof : m ≠ .eof) (not_close : m ≠ .close) : False :=
  (h m carries).elim not_eof not_close

theorem Downloads.unique (h : Downloads frames octets stopped)
    (h' : Downloads frames octets' stopped') : octets = octets' ∧ stopped = stopped' := by
  induction h generalizing octets' with
  | nil =>
      cases h'
      exact ⟨rfl, rfl⟩
  | pass carries not_eof not_close rest ih =>
      cases h' with
      | pass carries' _ _ rest' =>
          obtain ⟨rfl, rfl⟩ := ih rest'
          obtain rfl := carries.unique carries'
          exact ⟨rfl, rfl⟩
      | stop stops => exact (stops.not_pass carries not_eof not_close).elim
  | stop stops =>
      cases h' with
      | pass carries not_eof not_close => exact (stops.not_pass carries not_eof not_close).elim
      | stop => exact ⟨rfl, rfl⟩

/-- As long as nothing stops the data, more frames bring more of it. -/
theorem Downloads.append (h : Downloads frames octets false)
    (h' : Downloads frames' octets' stopped) :
    Downloads (frames ++ frames') (octets ++ octets') stopped := by
  -- The flag is an index of `Downloads`, so it is generalized for the induction over the frames.
  generalize hstopped : false = open' at h
  induction h with
  | nil => exact h'
  | pass carries not_eof not_close rest ih =>
      rw [List.append_assoc]
      exact .pass carries not_eof not_close (ih hstopped)
  | stop => cases hstopped

theorem Downloads.append_stopped (h : Downloads frames octets true) (frames' : List Bytes) :
    Downloads (frames ++ frames') octets true := by
  generalize hstopped : true = closed at h ⊢
  induction h with
  | nil => cases hstopped
  | pass carries not_eof not_close rest ih => exact .pass carries not_eof not_close (ih hstopped)
  | stop stops => exact .stop stops

theorem Downloads.stopped_of_mem (h : Downloads frames octets stopped) {body : Bytes}
    (hbody : body ∈ frames) (hstops : Stops body) : stopped = true := by
  induction h with
  | nil => simp at hbody
  | pass carries not_eof not_close rest ih =>
      rcases List.mem_cons.1 hbody with rfl | hbody
      · exact (hstops.not_pass carries not_eof not_close).elim
      · exact ih hbody
  | stop => rfl

theorem stops_of_carries_eof {body : Bytes} (h : Carries body .eof) : Stops body :=
  fun _ carries => .inl (carries.unique h)

theorem stops_of_carries_close {body : Bytes} (h : Carries body .close) : Stops body :=
  fun _ carries => .inr (carries.unique h)

theorem stops_of_malformed {body : Bytes} {fault : Fault}
    (h : Inbound.ofFrame body = .error fault) : Stops body :=
  fun m carries => (not_carries_of_ofFrame h m carries).elim

end Frames

/-! ## What a line delivers -/

variable {c : RemoteChannel} {events moved : List Event} {line line' : Line}
  {next : Except Ending Line}

/-- A line has delivered what its frames bring. The caller holds its end of the pipe, and when the
pump has ended by itself, the data has been stopped. -/
def Delivers (events : List Event) : Except Ending Line → Prop
  | .ok line =>
      Downloads (framesOf events) (deliveredOf events) line.pump.remoteEof ∧
        line.pump.nearGone = false
  | .error _ => ∃ stopped, Downloads (framesOf events) (deliveredOf events) stopped ∧
      (.cut ∉ events → stopped = true)

theorem Delivers.idle (h : Delivers events (.ok line)) (hframes : framesOf moved = [])
    (hoctets : deliveredOf moved = []) (hremote : line'.pump.remoteEof = line.pump.remoteEof)
    (hgone : line'.pump.nearGone = line.pump.nearGone) :
    Delivers (events ++ moved) (.ok line') := by
  refine ⟨?_, hgone.trans h.2⟩
  rw [framesOf_append, deliveredOf_append, hframes, hoctets, List.append_nil, List.append_nil,
    hremote]
  exact h.1

theorem Delivers.handles {body : Bytes} {m : Inbound} {step : Step} {p' : Pump}
    (h : Delivers events (.ok line)) (read : Inbound.ofFrame body = .ok m)
    (handles : line.pump.Handles m step p') :
    Delivers (events ++ .received body :: eventsOf step) (.ok { line with pump := p' }) := by
  obtain ⟨hdownloads, hgone⟩ := h
  have hcarries := ofFrame_eq_ok_iff.1 read
  refine ⟨?_, handles.nearGone.trans hgone⟩
  have hframes : framesOf (events ++ .received body :: eventsOf step) =
      framesOf events ++ [body] := by
    simp
  have hoctets : deliveredOf (events ++ .received body :: eventsOf step) =
      deliveredOf events ++ m.payload := by
    simp [handles.delivered]
  rw [hframes, hoctets, handles.remoteEof]
  cases hremote : line.pump.remoteEof with
  | true =>
      -- After its end the master's data is stopped, and the pipe has taken nothing but no octets.
      rw [handles.payload_eq_nil hremote, List.append_nil]
      rw [hremote] at hdownloads
      exact hdownloads.append_stopped _
  | false =>
      rw [hremote] at hdownloads
      refine hdownloads.append ?_
      by_cases heof : m = .eof
      · subst heof
        exact .stop (stops_of_carries_eof hcarries)
      · have hgoesOn : m.isEof = false := by cases m <;> simp at heof ⊢
        rw [hgoesOn, ← List.append_nil m.payload]
        exact .pass hcarries heof handles.not_close .nil

/-- The pump ends on a frame that stops the data, or one that comes after it has been stopped. -/
theorem Delivers.ended {body : Bytes} {step : Step} (h : Delivers events (.ok line))
    (hnone : step.delivered = []) (hstops : line.pump.remoteEof = true ∨ Stops body)
    (ending : Ending) :
    Delivers (events ++ .received body :: eventsOf step) (.error ending) := by
  obtain ⟨hdownloads, -⟩ := h
  refine ⟨true, ?_, fun _ => rfl⟩
  have hoctets : deliveredOf (events ++ .received body :: eventsOf step) = deliveredOf events := by
    simp [hnone]
  rw [framesOf_append, hoctets, framesOf_cons, framesOf_eventsOf, List.append_nil]
  cases hremote : line.pump.remoteEof with
  | true =>
      rw [hremote] at hdownloads
      exact hdownloads.append_stopped _
  | false =>
      rw [hremote] at hdownloads hstops
      rw [← List.append_nil (deliveredOf events)]
      exact hdownloads.append (.stop (hstops.resolve_left Bool.false_ne_true))

theorem Delivers.cut (h : Delivers events (.ok line)) (ending : Ending) :
    Delivers (events ++ [.cut]) (.error ending) :=
  ⟨line.pump.remoteEof, by simpa using h.1, fun hcut => by simp at hcut⟩

theorem Moves.delivers (move : Moves line moved next) (h : Delivers events (.ok line))
    (held : .dropped ∉ moved) : Delivers (events ++ moved) next := by
  cases move with
  | write octets opened => exact h.idle rfl rfl rfl rfl
  | shutdown => exact h.idle rfl rfl rfl rfl
  | drop => simp at held
  | take octets rest => exact h.idle (framesOf_eventsOf _) (deliveredOf_eventsOf _) rfl rfl
  | finish => exact h.idle (framesOf_eventsOf _) (deliveredOf_eventsOf _) rfl rfl
  | receive body =>
      have houtcome := line.pump.receiveFrame_outcome body
      generalize line.pump.receiveFrame body = step at houtcome ⊢
      cases houtcome with
      | malformed unread => exact h.ended rfl (.inr (stops_of_malformed unread)) _
      | ended read ends =>
          -- The caller holds its end, so the pipe takes no octets only after the end of the data.
          exact h.ended rfl ((ends.remoteEof_or_close h.2).imp_right fun hclose =>
            stops_of_carries_close (ofFrame_eq_ok_iff.1 (hclose ▸ read))) _
      | handled read handles =>
          rw [after_of_ok handles.next]
          exact h.handles read handles
  | disconnect => exact h.cut _
  | breakOff fault => exact h.cut _

theorem Runs.delivers (run : Runs c events next) (held : .dropped ∉ events) :
    Delivers events next := by
  induction run with
  | opened => exact ⟨.nil, rfl⟩
  | move run move ih =>
      rw [List.mem_append, not_or] at held
      exact move.delivers (ih held.1) held.2

/-! ## Both ways -/

/-- A run is through with the frames of the master: it has taken up all of them, or its pump has
ended by itself before that. -/
def Exhausts (frames : List Bytes) (events : List Event) (next : Except Ending Line) : Prop :=
  framesOf events = frames ∨
    framesOf events <+: frames ∧ .cut ∉ events ∧ ∃ ending, next = .error ending

theorem Delivers.downloads (h : Delivers events next) {frames : List Bytes}
    (exhausts : Exhausts frames events next) :
    ∃ stopped, Downloads frames (deliveredOf events) stopped := by
  rcases exhausts with rfl | ⟨⟨later, rfl⟩, uncut, ending, rfl⟩
  · cases next with
    | ok line => exact ⟨_, h.1⟩
    | error ending => exact ⟨_, h.choose_spec.1⟩
  · obtain ⟨stopped, hdownloads, hstopped⟩ := h
    obtain rfl := hstopped uncut
    exact ⟨true, hdownloads.append_stopped later⟩

theorem Delivers.receiveFrame_of_late (h : Delivers events (.ok line)) {told late octets : Bytes}
    (htold : told ∈ framesOf events) (heof : Carries told .eof)
    (hlate : Carries late (.data octets)) (hoctets : octets ≠ []) :
    line.pump.receiveFrame late = { sent := line.pump.closing, next := .error .pipeClosed } := by
  have hremote := h.1.stopped_of_mem htold (stops_of_carries_eof heof)
  have hrefused : line.pump.pipeTakes octets = false := by
    simp [Pump.pipeTakes, hremote, hoctets]
  simp [Pump.receiveFrame, ofFrame_eq_ok_iff.2 hlate, Pump.receive, Pump.receiveData, hrefused]

/-- Whatever happens at a line, and in whatever order: what has been sent to the master, all of it
on the channel, is the front of what the caller has written, and all of it once the end has been
sent. As long as the caller holds its end of the pipe, it gets what the frames of the master bring,
which nothing else that happens can change, and data that comes after its end is not put into the
pipe but ends the pump. -/
theorem Runs.carries_both_ways (run : Runs c events next) :
    (uploadedOf events <+: writtenOf events ∧
      (∀ m ∈ sentOf events, m.isData = true → ∃ octets, m = .data c.id octets) ∧
      ∀ channel, .eof channel ∈ sentOf events → uploadedOf events = writtenOf events) ∧
    (.dropped ∉ events →
      (∀ frames, Exhausts frames events next →
        (∃ stopped, Downloads frames (deliveredOf events) stopped) ∧
        ∀ c' events' next', Runs c' events' next' → .dropped ∉ events' →
          Exhausts frames events' next' → deliveredOf events' = deliveredOf events) ∧
      ∀ line told late octets, next = .ok line → told ∈ framesOf events → Carries told .eof →
        Carries late (.data octets) → octets ≠ [] →
          (line.pump.receiveFrame late).delivered = [] ∧
            (line.pump.receiveFrame late).next = .error .pipeClosed) := by
  refine ⟨⟨run.uploads.uploaded_le, ?_, fun _ => run.uploads.all_of_eof⟩,
    fun held => ⟨fun frames exhausts => ⟨(run.delivers held).downloads exhausts, ?_⟩, ?_⟩⟩
  · intro m hm hdata
    obtain ⟨octets, rfl, -⟩ := run.data hm hdata
    exact ⟨octets, rfl⟩
  · intro c' events' next' run' held' exhausts'
    obtain ⟨_, hdownloads⟩ := (run.delivers held).downloads exhausts
    obtain ⟨_, hdownloads'⟩ := (run'.delivers held').downloads exhausts'
    exact (hdownloads'.unique hdownloads).1
  · rintro line told late octets rfl htold heof hlate hoctets
    rw [(run.delivers held).receiveFrame_of_late htold heof hlate hoctets]
    exact ⟨rfl, rfl⟩

/-- The master's data comes between two parts of the caller's, and more of it after its end. -/
theorem carries_both_ways_of_late_data :
    ∃ events, Runs ⟨7, 100, 32768⟩ events (.error .pipeClosed) ∧
      framesOf events =
        [[94, 0, 0, 0, 0, 0, 0, 0, 1, 65], [96, 0, 0, 0, 0], [94, 0, 0, 0, 0, 0, 0, 0, 1, 66]] ∧
      sentOf events = [.data 7 [67], .data 7 [68], .eof 7, .close 7] ∧
      uploadedOf events = [67, 68] ∧ deliveredOf events = [65] ∧
      uploadedOf events = writtenOf events ∧
      ∃ stopped,
        Downloads (framesOf events ++ [[97, 0, 0, 0, 0]]) (deliveredOf events) stopped := by
  have start := Runs.opened (c := ⟨7, 100, 32768⟩)
  have written := start.move (.write [67, 68] rfl)
  have first := written.move (.take [67] [68] rfl rfl (by decide) (by decide))
  have data := first.move (.receive [94, 0, 0, 0, 0, 0, 0, 0, 1, 65])
  have second := data.move (.take [68] [] rfl rfl (by decide) (by decide))
  have done := second.move .shutdown
  have finished := done.move (.finish rfl rfl rfl)
  have told := finished.move (.receive [96, 0, 0, 0, 0])
  have late := told.move (.receive [94, 0, 0, 0, 0, 0, 0, 0, 1, 66])
  obtain ⟨⟨-, -, hall⟩, hheld⟩ := late.carries_both_ways
  refine ⟨_, late, rfl, rfl, rfl, rfl, hall 7 (by decide), ?_⟩
  exact ((hheld (by decide)).1 _ (.inr ⟨List.prefix_append _ _, by decide, _, rfl⟩)).1

end SshTunnel.Mux.Line
