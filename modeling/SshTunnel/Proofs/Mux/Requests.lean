import SshTunnel.Proofs.Mux.Flags
import SshTunnel.Proofs.Mux.Visits

/-!
# Requests and their refusals

The master's requests carry no numbers, so that a reply belongs to a request by its place only. The
client refuses every request that asks for a reply, and it does so at once: among the requests and
the refusals of a kind, each request is followed by its refusal, and by nothing else
(`refuses_in_turn`). This holds while a channel is being opened and at every line, and so for every
session, which is an opening and a run at a line (`Session.Visits.exists_runs`).
-/

namespace SshTunnel.Mux

open Line

/-- What belongs to the requests of a kind. -/
inductive Exchange where
  | asked | refused
  deriving DecidableEq, Repr

/-- What an event says about a request that asks for a reply and the message that refuses it. A
frame that is cut short carries no request. -/
def exchangesIn (request : Inbound) (refusal : Outbound) : Event → List Exchange
  | .received body => if Carries body request then [.asked] else []
  | .sent m => if m = refusal then [.refused] else []
  | _ => []

def exchangesOf (request : Inbound) (refusal : Outbound) (events : List Event) : List Exchange :=
  events.flatMap (exchangesIn request refusal)

/-- Each request is refused before the next one is taken up, and nothing else is. -/
def InTurn (exchanges : List Exchange) : Prop :=
  ∃ n, exchanges = (List.replicate n [.asked, .refused]).flatten

theorem InTurn.append {exchanges exchanges' : List Exchange} (h : InTurn exchanges)
    (h' : InTurn exchanges') : InTurn (exchanges ++ exchanges') := by
  obtain ⟨n, rfl⟩ := h
  obtain ⟨n', rfl⟩ := h'
  exact ⟨n + n', by rw [← List.replicate_append_replicate, List.flatten_append]⟩

/-- A request that asks for a reply, and the message that refuses it. -/
inductive Refuses (channel : UInt32) : Inbound → Outbound → Prop
  | channelRequest : Refuses channel (.channelRequest true) (.channelFailure channel)
  | globalRequest : Refuses channel (.globalRequest true) .requestFailure

variable {request : Inbound} {refusal : Outbound} {target : Target} {c : RemoteChannel}

namespace Pump

variable {p : Pump}

theorem not_mem_closing (h : Refuses p.channel request refusal) : refusal ∉ p.closing := by
  rw [closing]
  cases h <;> split <;> simp

theorem mem_receive_iff (h : Refuses p.channel request refusal) (m : Inbound) :
    refusal ∈ (p.receive m).sent ↔ m = request := by
  have hclosing := not_mem_closing h
  cases m with
  | data payload =>
      rcases p.receiveData_cases payload with ⟨-, hstep⟩ | ⟨-, -, hstep⟩ | ⟨-, -, hstep⟩
      · rw [receive, hstep]
        cases h <;> simpa using hclosing
      · rw [receive, hstep]
        cases h <;> simp
      · rw [receive, hstep]
        cases h <;> simp
  | eof =>
      rw [receive, receiveEof]
      cases p.localEof
      · cases h <;> simp
      · cases h <;> simpa using hclosing
  | close => cases h <;> simpa [receive] using hclosing
  | channelRequest wantReply | globalRequest wantReply =>
      cases h <;> cases wantReply <;> simp [receive]
  | extendedData | windowAdjust | other => cases h <;> simp [receive]

theorem receive_of_refuses (h : Refuses p.channel request refusal) :
    (p.receive request).sent = [refusal] := by
  cases h <;> rfl

end Pump

/-! ## In turn -/

@[simp] theorem exchangesOf_append (events events' : List Event) :
    exchangesOf request refusal (events ++ events') =
      exchangesOf request refusal events ++ exchangesOf request refusal events' :=
  List.flatMap_append

theorem exchangesOf_map_sent {messages : List Outbound} (h : refusal ∉ messages) :
    exchangesOf request refusal (messages.map .sent) = [] := by
  rw [exchangesOf, List.flatMap_map, List.flatMap_eq_nil_iff]
  intro m hm
  have hne : m ≠ refusal := fun heq => h (heq ▸ hm)
  simp [exchangesIn, hne]

theorem inTurn_of_refused {body : Bytes} (carries : Carries body request) :
    InTurn (exchangesOf request refusal (eventsOn body [refusal])) :=
  ⟨1, by simp [exchangesOf, eventsOn, exchangesIn, carries]⟩

theorem inTurn_of_unasked {body : Bytes} {messages : List Outbound}
    (unasked : ¬ Carries body request) (h : refusal ∉ messages) :
    InTurn (exchangesOf request refusal (eventsOn body messages)) := by
  refine ⟨0, ?_⟩
  change exchangesIn request refusal (.received body) ++ exchangesOf request refusal _ = []
  rw [exchangesOf_map_sent h, exchangesIn, if_neg unasked]
  rfl

namespace Line

variable {line : Line} {events moved : List Event} {next : Except Ending Line}

theorem Moves.inTurn (move : Moves line moved next)
    (h : Refuses line.pump.channel request refusal) :
    InTurn (exchangesOf request refusal moved) := by
  cases move with
  | take =>
      refine ⟨0, exchangesOf_map_sent ?_⟩
      cases h <;> simp [Pump.takeLocal]
  | finish =>
      refine ⟨0, exchangesOf_map_sent ?_⟩
      intro hmem
      rcases List.mem_cons.1 hmem with heq | hmem
      · cases h <;> cases heq
      · split at hmem
        · exact Pump.not_mem_closing h hmem
        · simp at hmem
  | receive body =>
      change InTurn (exchangesOf request refusal (eventsOn body _))
      rw [Pump.receiveFrame]
      cases hread : Inbound.ofFrame body with
      | error fault => exact inTurn_of_unasked (not_carries_of_ofFrame hread request) (by simp)
      | ok m =>
          have hcarries := ofFrame_eq_ok_iff.1 hread
          by_cases hm : m = request
          · subst hm
            dsimp only
            rw [Pump.receive_of_refuses h]
            exact inTurn_of_refused hcarries
          · have hunsent := mt (Pump.mem_receive_iff h m).1 hm
            exact inTurn_of_unasked (fun hasked => hm (hcarries.unique hasked)) hunsent
  | _ => exact ⟨0, rfl⟩

theorem Runs.inTurn (run : Runs c events next) (h : Refuses c.id request refusal) :
    InTurn (exchangesOf request refusal events) := by
  induction run with
  | opened => exact ⟨0, rfl⟩
  | move run move ih =>
      rw [exchangesOf_append]
      exact ih.append (move.inTurn (run.serves.1 ▸ h))

end Line

theorem Opens.inTurn {events : List Event} {o : Opening}
    (h : Opens target (.waiting .confirmation) events o) :
    InTurn (exchangesOf (.globalRequest true) .requestFailure events) := by
  refine Opens.induction_of_confirmation (motive := fun events =>
    InTurn (exchangesOf (.globalRequest true) .requestFailure events)) ⟨0, rfl⟩ ?_ h rfl
  intro body later ih
  rw [exchangesOf_append]
  refine InTurn.append ?_ ih
  cases hasks : asksReply body with
  | true => exact inTurn_of_refused (asksReply_iff.1 hasks)
  | false =>
      have hunasked : ¬ Carries body (.globalRequest true) := by simp [← asksReply_iff, hasks]
      exact inTurn_of_unasked hunasked (by simp)

/-- A session whose channel is open has asked for it, and has a run since. -/
theorem Session.Visits.exists_runs {acts : List Act} {s : Session} {next : Except Ending Line}
    (h : Session.Visits target acts s) (hnext : s.outcome? = some next) :
    ∃ opening c pumping, Opens target (.waiting .confirmation) opening (.opened c) ∧
      Line.Runs c pumping next ∧
      s.sent.reverse = [.hello, .proxy, .channelOpen target] ++ sentOf (opening ++ pumping) := by
  obtain ⟨events, rest, o, hopens, -, hcomes⟩ := h.traced
  obtain ⟨c, pumping, rfl, hruns, hsent⟩ := hcomes.of_outcome hnext
  rcases hopens.asks_or_ends with
    ⟨greeting, agreement, opening, -, -, rfl, hopening⟩ | ⟨_, ho, -⟩ | ⟨_, ho⟩
  · exact ⟨opening, c, pumping, hopening, hruns, by simpa using hsent⟩
  · cases ho
  · cases ho

/-- From the request for the channel on, the requests that belong to no channel are refused in turn.
At the line of the channel its requests are refused in turn, on the channel; while it is being
opened none is refused. -/
theorem refuses_in_turn {opening pumping : List Event} {o : Opening}
    (hopening : Opens target (.waiting .confirmation) opening o)
    (hpumping : pumping = [] ∨ ∃ c next, o = .opened c ∧ Runs c pumping next) :
    InTurn (exchangesOf (.globalRequest true) .requestFailure (opening ++ pumping)) ∧
      (∀ channel, .channelFailure channel ∉ sentOf opening) ∧
      ∀ c, o = .opened c →
        InTurn (exchangesOf (.channelRequest true) (.channelFailure c.id) pumping) ∧
        ∀ channel, .channelFailure channel ∈ sentOf pumping → channel = c.id := by
  have hquiet : ∀ channel, .channelFailure channel ∉ sentOf opening := by
    simp [hopening.sentOf_of_confirmation]
  rcases hpumping with rfl | ⟨c, next, rfl, hruns⟩
  · refine ⟨by simpa using hopening.inTurn, hquiet, fun c _ => ⟨⟨0, rfl⟩, by simp⟩⟩
  · rw [exchangesOf_append]
    refine ⟨hopening.inTurn.append (hruns.inTurn .globalRequest), hquiet, ?_⟩
    intro c' hc
    obtain rfl := Opening.opened.inj hc
    refine ⟨hruns.inTurn .channelRequest, fun channel hm => ?_⟩
    simpa [Outbound.channel?] using hruns.addressed hm

/-- Requests of both kinds, some of which ask for no reply. -/
theorem refuses_in_turn_while_busy :
    ∃ opening pumping line,
      Opens ⟨"h1", 22⟩ (.waiting .confirmation) opening (.opened ⟨7, 256, 512⟩) ∧
      Runs ⟨7, 256, 512⟩ pumping (.ok line) ∧
      framesOf opening = [[80, 0, 0, 0, 0, 1], [98, 0, 0, 0, 0, 0, 0, 0, 0, 1],
        [91, 0, 0, 0, 0, 0, 0, 0, 7, 0, 0, 1, 0, 0, 0, 2, 0]] ∧
      framesOf pumping = [[98, 0, 0, 0, 0, 0, 0, 0, 0, 1], [80, 0, 0, 0, 0, 0],
        [80, 0, 0, 0, 0, 2]] ∧
      sentOf opening = [.requestFailure] ∧ sentOf pumping = [.channelFailure 7, .requestFailure] ∧
      InTurn (exchangesOf (.globalRequest true) .requestFailure (opening ++ pumping)) ∧
      InTurn (exchangesOf (.channelRequest true) (.channelFailure 7) pumping) := by
  have hopening : Opens ⟨"h1", 22⟩ (.waiting .confirmation) _ (.opened ⟨7, 256, 512⟩) :=
    .cons [80, 0, 0, 0, 0, 1] (.cons [98, 0, 0, 0, 0, 0, 0, 0, 0, 1]
      (.cons [91, 0, 0, 0, 0, 0, 0, 0, 7, 0, 0, 1, 0, 0, 0, 2, 0] (.nil _)))
  have start := Runs.opened (c := ⟨7, 256, 512⟩)
  have asked := start.move (.receive [98, 0, 0, 0, 0, 0, 0, 0, 0, 1])
  have told := asked.move (.receive [80, 0, 0, 0, 0, 0])
  have hpumping := told.move (.receive [80, 0, 0, 0, 0, 2])
  obtain ⟨hglobal, -, hchannel⟩ := refuses_in_turn hopening (.inr ⟨_, _, rfl, hpumping⟩)
  exact ⟨_, _, _, hopening, hpumping, rfl, rfl, rfl, rfl, hglobal, (hchannel _ rfl).1⟩

end SshTunnel.Mux
