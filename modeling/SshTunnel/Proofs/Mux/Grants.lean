import SshTunnel.Proofs.Mux.Visits

/-!
# Which masters open a channel

What has arrived from the master decides whether its channel is opened, whatever the pieces in which
it came: the opening goes as far as whole frames have arrived, and that far there is only one way
for it to go (`Opens.unique`). So a settled client has its channel just if the master has granted
it, waits just if the master may yet do so, and has failed otherwise
(`Session.opened_iff_granted`).
-/

namespace SshTunnel.Mux

open Line

/-- The octets of a master that opens a channel, perhaps with more after them. -/
def Granted (octets : Bytes) (passed : List Bytes) (c : RemoteChannel) : Prop :=
  ∃ bodies rest, Framed octets bodies rest ∧ Grants c passed bodies

/-- The octets of a master that has not sent the whole of the next frame yet. -/
def Awaited (octets : Bytes) : Prop :=
  ∃ phase bodies rest, Framed octets bodies rest ∧ Awaits phase bodies ∧ Incomplete rest

/-- An opening has gone as far as it can: it is over, or there is no frame for it. -/
def Stuck (rest : Bytes) (o : Opening) : Prop :=
  (∀ phase, o ≠ .waiting phase) ∨ Incomplete rest ∨ Oversized rest

namespace Opens

variable {target : Target} {first o o' : Opening} {events events' later : List Event}
  {octets rest rest' : Bytes}

theorem eq_nil_of_stuck (h : Opens target o later o') (hframed : Framed rest (framesOf later) rest')
    (hstuck : Stuck rest o) : later = [] ∧ o' = o ∧ rest' = rest := by
  cases h with
  | nil => exact ⟨rfl, rfl, by simpa using hframed.octets_eq.symm⟩
  | @cons phase events o body opens =>
      have hbody : body.length ≤ maxFrame := hframed.short body (by simp)
      have hrest : rest = frame body ++ ((framesOf events).flatMap frame ++ rest') := by
        simpa using hframed.octets_eq
      rcases hstuck with hover | hincomplete | hoversized
      · exact absurd rfl (hover phase)
      · exact absurd hrest (hincomplete.not_frame hbody)
      · exact absurd hrest (hoversized.not_frame hbody)

theorem unique (h : Opens target first events o) (h' : Opens target first events' o')
    (hframed : Framed octets (framesOf events) rest)
    (hframed' : Framed octets (framesOf events') rest')
    (hstuck : Stuck rest o) (hstuck' : Stuck rest' o') :
    events' = events ∧ o' = o ∧ rest' = rest := by
  rcases hframed.prefix_cases hframed' with ⟨more, hmore, hrest⟩ | ⟨body, more, hmore, hrest⟩
  · obtain ⟨later, rfl, rfl, hopens⟩ := h.later_of_framesOf h' hmore
    obtain ⟨rfl, rfl, rfl⟩ := hopens.eq_nil_of_stuck hrest hstuck
    exact ⟨by simp, rfl, rfl⟩
  · obtain ⟨later, rfl, hlater, hopens⟩ := h'.later_of_framesOf h hmore
    rw [← hlater] at hrest
    obtain ⟨rfl, rfl, rfl⟩ := hopens.eq_nil_of_stuck hrest hstuck'
    exact ⟨by simp, rfl, rfl⟩

end Opens

namespace Session

variable {s : Session} {target : Target} {acts : List Act} {c : RemoteChannel}

/-- The answer to the caller who has asked for the channel, once there is one. -/
def answer? (s : Session) : Option (Except Error Unit) :=
  match s.client with
  | .opening _ => none
  | .failed fault => some (.error (.controlChannelFailed fault.message))
  | .pumping _ | .ended _ => some (.ok ())

theorem throughControl_eq_answer (target : Target) (octets : Bytes) :
    Connection.throughControl target octets =
      match ((start target).apply (.arrive octets)).settle.answer? with
      | none => .ok none
      | some answer =>
          answer.map fun _ => some (.channel ((start target).apply (.arrive octets)).settle) := by
  rw [Connection.throughControl]
  cases hclient : ((start target).apply (.arrive octets)).settle.client <;>
    simp [answer?, hclient, Except.map]

theorem waits_of_idle {phase : Phase} (hexpected : s.deframer.expected = none)
    (hclient : s.client = .opening phase) (hidle : s.step? = none) :
    Incomplete s.deframer.pending ∧ s.masterDone = false := by
  rw [step?, hclient] at hidle
  simp only [stepOpening] at hidle
  rcases Deframer.next_cases hexpected with
    ⟨body, rest, -, -, hnext⟩ | ⟨hincomplete, d, hnext⟩ | ⟨-, hnext⟩
  · simp [hnext] at hidle
  · exact ⟨hincomplete, by simpa [hnext] using hidle⟩
  · simp [hnext] at hidle

/-- The opening of the channel of an idle session has gone as far as it can. -/
theorem Visits.stuck (h : Visits target acts s) (hidle : s.step? = none) :
    ∃ events rest o, Opens target (.waiting .hello) events o ∧
      Framed (arrivedOf acts) (framesOf events) rest ∧ s.ComesOf events rest o ∧ Stuck rest o := by
  obtain ⟨events, rest, o, hopens, hframed, hcomes⟩ := h.traced
  refine ⟨events, rest, o, hopens, hframed, hcomes, ?_⟩
  cases hcomes with
  | waiting client pending sent =>
      have hwaits := waits_of_idle h.expected client hidle
      exact .inr (.inl (pending ▸ hwaits.1))
  | broken client broken => exact .inr (broken.symm.imp_left And.left)
  | failed client => exact .inl (by simp)
  | opened outcome runs sent => exact .inl (by simp)

section Idle

variable (h : Visits target acts s) (hidle : s.step? = none)

include h hidle

theorem opened_of_granted {passed : List Bytes} (hfits : fits target = true)
    (hgranted : Granted (arrivedOf acts) passed c) :
    ∃ pumping next, s.outcome? = some next ∧ Line.Runs c pumping next ∧
      s.sent.reverse = [.hello, .proxy, .channelOpen target] ++
        List.replicate (passed.countP asksReply) .requestFailure ++ sentOf pumping := by
  obtain ⟨bodies, rest, hframed, hgrants⟩ := hgranted
  obtain ⟨events, hopens, rfl⟩ := Opens.exists_of_grants hgrants hfits
  obtain ⟨events', rest', o, hopens', hframed', hcomes, hstuck⟩ := h.stuck hidle
  obtain ⟨rfl, rfl, rfl⟩ :=
    hopens.unique hopens' hframed hframed' (.inl (by simp)) hstuck
  cases hcomes with
  | @opened _ pumping next outcome runs sent =>
      obtain ⟨passed', hgrants', hsent⟩ := hopens.grants
      refine ⟨pumping, next, outcome, runs, ?_⟩
      rw [sent, hsent, hgrants.passed_eq, hgrants'.passed_eq]
      rfl

theorem opening_of_awaited (hfits : fits target = true) (hopen : s.masterDone = false)
    (hawaited : Awaited (arrivedOf acts)) : ∃ phase, s.client = .opening phase := by
  obtain ⟨phase, bodies, rest, hframed, hawaits, hincomplete⟩ := hawaited
  obtain ⟨events, hopens, rfl⟩ := Opens.exists_of_awaits hawaits hfits
  obtain ⟨events', rest', o, hopens', hframed', hcomes, hstuck⟩ := h.stuck hidle
  obtain ⟨rfl, rfl, rfl⟩ :=
    hopens.unique hopens' hframed hframed' (.inr (.inl hincomplete)) hstuck
  cases hcomes with
  | waiting client pending sent => exact ⟨phase, client⟩
  | broken client broken =>
      rcases broken with hoversized | ⟨-, hdone⟩
      · exact absurd hoversized hincomplete.not_oversized
      · simp [hopen] at hdone

theorem awaited_of_opening {phase : Phase} (hclient : s.client = .opening phase) :
    s.masterDone = false ∧ Awaited (arrivedOf acts) := by
  obtain ⟨hincomplete, hopen⟩ := waits_of_idle h.expected hclient hidle
  obtain ⟨events, rest, o, hopens, hframed, hcomes⟩ := h.traced
  obtain ⟨rfl, rfl, -⟩ := hcomes.of_opening hclient
  exact ⟨hopen, phase, _, _, hframed, hopens.awaits, hincomplete⟩

end Idle

theorem Visits.granted_of_outcome {next : Except Ending Line} (h : Visits target acts s)
    (hnext : s.outcome? = some next) :
    ∃ passed c, Granted (arrivedOf acts) passed c := by
  obtain ⟨events, rest, o, hopens, hframed, hcomes⟩ := h.traced
  obtain ⟨c, pumping, rfl, -⟩ := hcomes.of_outcome hnext
  obtain ⟨passed, hgrants, -⟩ := hopens.grants
  exact ⟨passed, c, _, _, hframed, hgrants⟩

theorem answer?_eq_ok_iff : s.answer? = some (.ok ()) ↔ ∃ next, s.outcome? = some next := by
  cases hclient : s.client <;> simp [answer?, outcome?, hclient]

theorem answer?_eq_none_iff : s.answer? = none ↔ ∃ phase, s.client = .opening phase := by
  cases hclient : s.client <;> simp [answer?, hclient]

theorem answer?_cases (s : Session) : s.answer? = none ∨ s.answer? = some (.ok ()) ∨
    ∃ fault : Fault, s.answer? = some (.error (.controlChannelFailed fault.message)) := by
  cases hclient : s.client <;> simp [answer?, hclient]

theorem length_host_lt (hfits : fits target = true) :
    (Text.Utf8.ofString target.host).length < 2 ^ 32 := by
  have hlength : (Outbound.channelOpen target).encode.length ≤ 8388608 := of_decide_eq_true hfits
  simp only [Outbound.encode, Outbound.fields, encodeFields_cons, encodeFields_nil, Field.encode,
    List.length_append, Bytes.length_ofWord] at hlength
  omega

/-- The request to open a channel is read back as it was written. -/
theorem readFields?_channelOpen (hfits : fits target = true) :
    readFields? ((Outbound.channelOpen target).fields.map Field.kind)
      (Outbound.channelOpen target).encode = some ((Outbound.channelOpen target).fields, []) := by
  have hstrings : ∀ t, Field.string t ∈ (Outbound.channelOpen target).fields →
      t.length < 2 ^ 32 := by
    intro t ht
    obtain rfl | rfl | rfl : t = Text.Utf8.ofString "direct-tcpip" ∨
        t = Text.Utf8.ofString target.host ∨ t = Text.Utf8.ofString "127.0.0.1" := by
      simpa [Outbound.fields] using ht
    · decide
    · exact length_host_lt hfits
    · decide
  rw [Outbound.encode, ← List.append_nil (encodeFields _)]
  exact readFields?_encodeFields [] hstrings

/-- The client gets its channel just if the master has granted it, waits just if the master may yet
do so, and has failed otherwise. To get it, the client has greeted, asked for a connection and then
for the channel, and refused the requests that it has passed over. -/
theorem opened_iff_granted (hfits : fits target = true) (h : Visits target acts s) :
    (s.settle.answer? = some (.ok ()) ↔ ∃ passed c, Granted (arrivedOf acts) passed c) ∧
      (s.settle.answer? = none ↔ .masterDone ∉ acts ∧ Awaited (arrivedOf acts)) ∧
      ((∀ passed c, ¬ Granted (arrivedOf acts) passed c) →
        .masterDone ∈ acts ∨ ¬ Awaited (arrivedOf acts) →
        ∃ fault : Fault, s.settle.answer? = some (.error (.controlChannelFailed fault.message))) ∧
      (∀ passed c, Granted (arrivedOf acts) passed c → ∃ pumping next,
        s.settle.outcome? = some next ∧ Line.Runs c pumping next ∧
          s.settle.sent.reverse = [.hello, .proxy, .channelOpen target] ++
            List.replicate (passed.countP asksReply) .requestFailure ++ sentOf pumping) ∧
      Outbound.hello.encode = [0, 0, 0, 1, 0, 0, 0, 4] ∧
      Outbound.proxy.encode = [0x10, 0, 0, 0x0F, 0, 0, 0, 1] ∧
      readFields? [.byte, .string, .word, .word, .word, .string, .word, .string, .word]
          (Outbound.channelOpen target).encode =
        some ([.byte 90, .string (Text.Utf8.ofString "direct-tcpip"), .word 0, .word 2097152,
          .word 32768, .string (Text.Utf8.ofString target.host), .word target.port.toUInt32,
          .string (Text.Utf8.ofString "127.0.0.1"), .word 0], []) ∧
      Outbound.requestFailure.encode = [82] := by
  have hsettled := h.settle
  have hok : s.settle.answer? = some (.ok ()) ↔ ∃ passed c, Granted (arrivedOf acts) passed c := by
    rw [answer?_eq_ok_iff]
    constructor
    · rintro ⟨next, hnext⟩
      exact hsettled.granted_of_outcome hnext
    · rintro ⟨passed, c, hgranted⟩
      obtain ⟨pumping, next, hnext, -⟩ := opened_of_granted hsettled h.idle_settle hfits hgranted
      exact ⟨next, hnext⟩
  have hnone : s.settle.answer? = none ↔ .masterDone ∉ acts ∧ Awaited (arrivedOf acts) := by
    rw [answer?_eq_none_iff, ← hsettled.masterDone_iff, Bool.not_eq_true]
    constructor
    · rintro ⟨phase, hclient⟩
      exact awaited_of_opening hsettled h.idle_settle hclient
    · rintro ⟨hopen, hawaited⟩
      exact opening_of_awaited hsettled h.idle_settle hfits hopen hawaited
  refine ⟨hok, hnone, ?_, ?_, rfl, rfl, readFields?_channelOpen hfits, rfl⟩
  · intro hungranted hover
    rcases s.settle.answer?_cases with hwaits | hopened | hfailed
    · obtain ⟨hopen, hawaited⟩ := hnone.1 hwaits
      exact absurd hover (not_or.2 ⟨hopen, not_not.2 hawaited⟩)
    · obtain ⟨passed, c, hgranted⟩ := hok.1 hopened
      exact absurd hgranted (hungranted passed c)
    · exact hfailed
  · intro passed c hgranted
    exact opened_of_granted hsettled h.idle_settle hfits hgranted

/-- A request is refused on the way, and the frames come in two pieces. -/
theorem opened_after_request :
    fits ⟨"h1", 22⟩ = true ∧ ∃ s acts pumping, Visits ⟨"h1", 22⟩ acts s ∧
      arrivedOf acts = frame [0, 0, 0, 1, 0, 0, 0, 4] ++ frame [0x80, 0, 0, 0x0F, 0, 0, 0, 1] ++
        frame [80, 0, 0, 0, 1, 97, 1] ++
        frame [91, 0, 0, 0, 0, 0, 0, 0, 7, 0, 0, 1, 0, 0, 0, 2, 0] ∧
      s.settle.answer? = some (.ok ()) ∧
      s.settle.sent.reverse =
        [.hello, .proxy, .channelOpen ⟨"h1", 22⟩, .requestFailure] ++ sentOf pumping := by
  have hfits : fits ⟨"h1", 22⟩ = true := by decide
  have hvisits : Visits ⟨"h1", 22⟩
      [.arrive (frame [0, 0, 0, 1, 0, 0, 0, 4] ++ [0, 0]),
        .arrive ([0, 8, 0x80, 0, 0, 0x0F, 0, 0, 0, 1] ++ frame [80, 0, 0, 0, 1, 97, 1] ++
          frame [91, 0, 0, 0, 0, 0, 0, 0, 7, 0, 0, 1, 0, 0, 0, 2, 0])] _ :=
    (Visits.start.act _ rfl).act _ rfl
  have hgrants : Grants ⟨7, 256, 512⟩ [[80, 0, 0, 0, 1, 97, 1]]
      [[0, 0, 0, 1, 0, 0, 0, 4], [0x80, 0, 0, 0x0F, 0, 0, 0, 1], [80, 0, 0, 0, 1, 97, 1],
        [91, 0, 0, 0, 0, 0, 0, 0, 7, 0, 0, 1, 0, 0, 0, 2, 0]] := by
    have hcarries : Carries [80, 0, 0, 0, 1, 97, 1] (.globalRequest true) :=
      ofFrame_eq_ok_iff.1 rfl
    have hpasses : ∀ body ∈ [[80, 0, 0, 0, 1, 97, 1]], Passes body := by
      simpa using Passes.globalRequest hcarries
    exact .intro ⟨[], rfl⟩ ⟨[], rfl⟩ hpasses ⟨0, [], rfl⟩
  have hgranted : Granted _ _ _ := ⟨_, [], ⟨by decide, rfl⟩, hgrants⟩
  obtain ⟨hok, -, -, hsent, -⟩ := opened_iff_granted hfits hvisits
  obtain ⟨pumping, next, -, -, hsent⟩ := hsent _ _ hgranted
  exact ⟨hfits, _, _, pumping, hvisits, rfl, hok.2 ⟨_, _, hgranted⟩, hsent⟩

end Session

end SshTunnel.Mux
