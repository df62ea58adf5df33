import SshTunnel.Mux.Opening
import SshTunnel.Proofs.Except
import SshTunnel.Proofs.Mux.Layout
import SshTunnel.Proofs.Mux.Line

/-!
# Opening a channel, frame by frame

`Opens target o events o'` follows a client that opens a channel, through the frames it takes up and
the messages it sends, until it waits in a phase, its channel is open, or it has failed. The frames
decide what happens (`Opens.later_of_framesOf`). A channel is opened just by a master that greets,
agrees, and after any frames that can be passed over confirms the channel (`Opens.grants` and
`Opens.exists_of_grants`).
-/

namespace SshTunnel.Mux

open Line

/-! ## Frames of the master -/

def Greets (body : Bytes) : Prop :=
  ∃ rest, body = encodeFields [.word helloKind, .word version] ++ rest

/-- The master agrees to pass on the messages of channels. -/
def Agrees (body : Bytes) : Prop :=
  ∃ rest, body = encodeFields [.word proxyReplyKind, .word requestNumber] ++ rest

/-- A frame that does not keep a channel from being opened. -/
inductive Passes : Bytes → Prop
  | other (kind : UInt8) (s : Bytes)
      (unheeded : kind ∉ [globalRequestKind, openConfirmationKind, openFailureKind]) :
      Passes (kind :: s)
  | globalRequest {body : Bytes} {wantReply : Bool}
      (carries : Carries body (.globalRequest wantReply)) : Passes body

def Confirms (c : RemoteChannel) (body : Bytes) : Prop :=
  ∃ recipient rest, body = encodeFields [.byte openConfirmationKind, .word recipient, .word c.id,
    .word c.window, .word c.maxPacket] ++ rest

/-- Frames after which the client waits in a phase. -/
inductive Awaits : Phase → List Bytes → Prop
  | hello : Awaits .hello []
  | proxy {greeting : Bytes} (greets : Greets greeting) : Awaits .proxy [greeting]
  | confirmation {greeting agreement : Bytes} {passed : List Bytes} (greets : Greets greeting)
      (agrees : Agrees agreement) (passes : ∀ body ∈ passed, Passes body) :
      Awaits .confirmation (greeting :: agreement :: passed)

/-- Frames by which a master opens a channel, with those that it sends in between. -/
inductive Grants (c : RemoteChannel) (passed : List Bytes) : List Bytes → Prop
  | intro {greeting agreement confirmation : Bytes} (greets : Greets greeting)
      (agrees : Agrees agreement) (passes : ∀ body ∈ passed, Passes body)
      (confirms : Confirms c confirmation) :
      Grants c passed (greeting :: agreement :: (passed ++ [confirmation]))

/-- A frame is a global request whose sender wants a reply. -/
def asksReply (body : Bytes) : Bool :=
  decide (Carries body (.globalRequest true))

variable {target : Target} {body : Bytes} {c : RemoteChannel} {phase : Phase}

theorem Grants.passed_eq {passed bodies : List Bytes} (h : Grants c passed bodies) :
    passed = (bodies.drop 2).dropLast := by
  cases h
  simp

theorem orTruncated_eq_ok_iff {α : Type} {field : Option α} {a : α} :
    orTruncated field = .ok a ↔ field = some a := by
  cases field with
  | none => simp [orTruncated]
  | some b => simp [orTruncated]

theorem checkHello_eq_ok_iff : checkHello body = .ok () ↔ Greets body := by
  simp only [checkHello, check_bind_eq_ok_iff, check_eq_ok_iff, bind_eq_ok_iff,
    orTruncated_eq_ok_iff, Prod.exists, readWord?_eq_some_iff, not_not]
  constructor
  · rintro ⟨_, _, rfl, rfl, _, rest, rfl, rfl, -⟩
    exact ⟨rest, rfl⟩
  · rintro ⟨rest, rfl⟩
    exact ⟨_, _, rfl, rfl, _, _, rfl, rfl, rfl⟩

theorem checkProxyReply_eq_ok_iff : checkProxyReply body = .ok () ↔ Agrees body := by
  simp only [checkProxyReply, check_bind_eq_ok_iff, bind_eq_ok_iff, orTruncated_eq_ok_iff,
    Prod.exists, readWord?_eq_some_iff, not_not]
  constructor
  · rintro ⟨kind, _, rfl, _, rest, rfl, rfl, hkind⟩
    split at hkind
    · next hk => exact ⟨rest, by rw [hk]; rfl⟩
    · split at hkind
      · simp [bind_eq_ok_iff] at hkind
      · split at hkind
        · simp [bind_eq_ok_iff] at hkind
        · simp at hkind
  · rintro ⟨rest, rfl⟩
    exact ⟨_, _, rfl, _, _, rfl, rfl, rfl⟩

theorem confirms_iff : Confirms c body ↔
    ∃ s, body = openConfirmationKind :: s ∧ readConfirmation? s = some c := by
  simp only [readConfirmation?, Option.bind_eq_bind, Option.pure_def, Option.bind_eq_some_iff,
    Prod.exists, readWord?_eq_some_iff]
  constructor
  · rintro ⟨recipient, rest, rfl⟩
    exact ⟨_, rfl, recipient, _, rfl, c.id, _, rfl, c.window, _, rfl, c.maxPacket, rest, rfl, rfl⟩
  · rintro ⟨_, rfl, recipient, _, rfl, id, _, rfl, window, _, rfl, maxPacket, rest, rfl, hc⟩
    obtain rfl := Option.some.inj hc
    exact ⟨recipient, rest, rfl⟩

theorem ofFrame_globalRequest (s : Bytes) :
    (Inbound.ofFrame (globalRequestKind :: s)).toOption =
      (readGlobalRequest? s).map Inbound.globalRequest := by
  have hread : Inbound.readAfter? globalRequestKind s =
      (readGlobalRequest? s).map Inbound.globalRequest := rfl
  rw [Inbound.ofFrame, hread]
  cases readGlobalRequest? s with
  | none => rfl
  | some wantReply => rfl

theorem carries_globalRequest_iff {wantReply : Bool} :
    Carries body (.globalRequest wantReply) ↔
      ∃ s, body = globalRequestKind :: s ∧ readGlobalRequest? s = some wantReply := by
  rw [← ofFrame_eq_ok_iff, ← toOption_eq_some_iff]
  constructor
  · intro h
    obtain ⟨s, rfl⟩ : ∃ s, body = globalRequestKind :: s := by
      rw [toOption_eq_some_iff, ofFrame_eq_ok_iff] at h
      generalize hm : Inbound.globalRequest wantReply = m at h
      cases h with
      | globalRequest name flag rest length => exact ⟨_, rfl⟩
      | _ => cases hm
    exact ⟨s, rfl, by simpa [ofFrame_globalRequest] using h⟩
  · rintro ⟨s, rfl, hread⟩
    rw [ofFrame_globalRequest, hread, Option.map_some]

theorem asksReply_iff : asksReply body = true ↔ Carries body (.globalRequest true) := by
  rw [asksReply, decide_eq_true_iff]

theorem Confirms.not_asksReply (h : Confirms c body) : asksReply body = false := by
  obtain ⟨recipient, rest, rfl⟩ := h
  rfl

/-! ## The next frame -/

theorem receiveWhileOpening_of_passes (target : Target) (h : Passes body) :
    receiveWhileOpening target body =
      (if asksReply body then [.requestFailure] else [], .waiting .confirmation) := by
  cases h with
  | other kind s unheeded =>
      simp only [List.mem_cons, List.not_mem_nil, or_false, not_or] at unheeded
      have hquiet : asksReply (kind :: s) = false := by
        rw [← Bool.not_eq_true, asksReply_iff, carries_globalRequest_iff]
        rintro ⟨_, heq, -⟩
        exact unheeded.1 (List.cons.inj heq).1
      simp [receiveWhileOpening, unheeded, hquiet]
  | @globalRequest _ wantReply carries =>
      have hasks : asksReply body = wantReply := by
        rw [Bool.eq_iff_iff, asksReply_iff]
        constructor
        · intro hasked
          exact Inbound.globalRequest.inj (carries.unique hasked)
        · rintro rfl
          exact carries
      obtain ⟨s, rfl, hread⟩ := carries_globalRequest_iff.1 carries
      rw [hasks]
      simp [receiveWhileOpening, hread, globalRequestKind, openConfirmationKind, openFailureKind]

theorem receiveWhileOpening_of_confirms (target : Target) (h : Confirms c body) :
    receiveWhileOpening target body = ([], .opened c) := by
  obtain ⟨s, rfl, hread⟩ := confirms_iff.1 h
  simp [receiveWhileOpening, hread]

theorem passes_or_confirms_or_fails (target : Target) (body : Bytes) :
    Passes body ∨ (∃ c, Confirms c body) ∨
      ∃ fault, receiveWhileOpening target body = ([], .failed fault) := by
  cases body with
  | nil => exact .inr (.inr ⟨_, rfl⟩)
  | cons kind s =>
      by_cases hconfirmation : kind = openConfirmationKind
      · subst hconfirmation
        cases hread : readConfirmation? s with
        | some c => exact .inr (.inl ⟨c, confirms_iff.2 ⟨s, rfl, hread⟩⟩)
        | none => exact .inr (.inr ⟨.truncated, by simp [receiveWhileOpening, hread]⟩)
      by_cases hfailure : kind = openFailureKind
      · subst hfailure
        refine .inr (.inr ?_)
        cases hread : readRefusal? s with
        | some refusal =>
            exact ⟨.refused target refusal.1 refusal.2, by
              simp [receiveWhileOpening, hread, openConfirmationKind, openFailureKind]⟩
        | none =>
            exact ⟨.truncated, by
              simp [receiveWhileOpening, hread, openConfirmationKind, openFailureKind]⟩
      by_cases hglobal : kind = globalRequestKind
      · subst hglobal
        cases hread : readGlobalRequest? s with
        | some wantReply =>
            exact .inl (.globalRequest (carries_globalRequest_iff.2 ⟨s, rfl, hread⟩))
        | none =>
            refine .inr (.inr ⟨.truncated, ?_⟩)
            simp [receiveWhileOpening, hread, globalRequestKind, openConfirmationKind,
              openFailureKind]
      · exact .inl (.other kind s (by simp [hconfirmation, hfailure, hglobal]))

theorem receive_of_greets (target : Target) (h : Greets body) :
    Phase.hello.receive target body = ([.proxy], .waiting .proxy) := by
  rw [Phase.receive, checkHello_eq_ok_iff.2 h]

theorem greets_or_fails (target : Target) (body : Bytes) :
    Greets body ∨ ∃ fault, Phase.hello.receive target body = ([], .failed fault) := by
  rw [← checkHello_eq_ok_iff, Phase.receive]
  cases checkHello body with
  | ok => exact .inl rfl
  | error fault => exact .inr ⟨fault, rfl⟩

theorem receive_of_agrees (hfits : fits target = true) (h : Agrees body) :
    Phase.proxy.receive target body = ([.channelOpen target], .waiting .confirmation) := by
  rw [Phase.receive, checkProxyReply_eq_ok_iff.2 h]
  simp [hfits]

theorem agrees_or_fails (target : Target) (body : Bytes) :
    (Agrees body ∧ fits target = true) ∨
      ∃ fault, Phase.proxy.receive target body = ([], .failed fault) := by
  rw [← checkProxyReply_eq_ok_iff, Phase.receive]
  cases checkProxyReply body with
  | error fault => exact .inr ⟨fault, rfl⟩
  | ok =>
      cases hfits : fits target with
      | true => exact .inl ⟨rfl, rfl⟩
      | false => exact .inr ⟨.longRequest, rfl⟩

theorem confirmation_cases (target : Target) (body : Bytes) :
    (Phase.confirmation.receive target body).1 =
        List.replicate (asksReply body).toNat .requestFailure ∧
      (Passes body ∧ (Phase.confirmation.receive target body).2 = .waiting .confirmation ∨
        (∃ c, Confirms c body ∧ (Phase.confirmation.receive target body).2 = .opened c) ∨
        ∃ fault, (Phase.confirmation.receive target body).2 = .failed fault) := by
  rw [Phase.receive]
  rcases passes_or_confirms_or_fails target body with hpasses | ⟨c, hconfirms⟩ | ⟨fault, hfailed⟩
  · rw [receiveWhileOpening_of_passes target hpasses]
    refine ⟨?_, .inl ⟨hpasses, rfl⟩⟩
    cases asksReply body <;> rfl
  · rw [receiveWhileOpening_of_confirms target hconfirms, hconfirms.not_asksReply]
    exact ⟨rfl, .inr (.inl ⟨c, hconfirms, rfl⟩)⟩
  · refine ⟨?_, .inr (.inr ⟨fault, by rw [hfailed]⟩)⟩
    cases hasks : asksReply body with
    | false => rw [hfailed]; rfl
    | true =>
        -- A request is passed over, so it does not fail.
        have hpasses : Passes body := .globalRequest (asksReply_iff.1 hasks)
        simp [receiveWhileOpening_of_passes target hpasses] at hfailed

/-! ## Openings -/

def eventsOn (body : Bytes) (messages : List Outbound) : List Event :=
  .received body :: messages.map .sent

@[simp] theorem framesOf_eventsOn (body : Bytes) (messages : List Outbound) :
    framesOf (eventsOn body messages) = [body] := by
  rw [eventsOn, framesOf_cons, framesOf_map_sent]
  rfl

@[simp] theorem sentOf_eventsOn (body : Bytes) (messages : List Outbound) :
    sentOf (eventsOn body messages) = messages := by
  rw [eventsOn, sentOf_cons, sentOf_map_sent]
  rfl

/-- What a client takes up and sends until something has come of it. -/
inductive Opens (target : Target) : Opening → List Event → Opening → Prop
  | nil (o : Opening) : Opens target o [] o
  | cons {phase : Phase} {events : List Event} {o : Opening} (body : Bytes)
      (opens : Opens target (phase.receive target body).2 events o) :
      Opens target (.waiting phase) (eventsOn body (phase.receive target body).1 ++ events) o

namespace Opens

variable {o o' o'' : Opening} {events events' : List Event} {bodies : List Bytes}

theorem of_over (h : Opens target o events o') (hover : ∀ phase, o ≠ .waiting phase) :
    events = [] ∧ o' = o := by
  cases h with
  | nil => exact ⟨rfl, rfl⟩
  | cons body opens => exact absurd rfl (hover _)

theorem of_receive {messages : List Outbound} (h : phase.receive target body = (messages, o))
    (opens : Opens target o events o') :
    Opens target (.waiting phase) (eventsOn body messages ++ events) o' := by
  have hnext : Opens target (phase.receive target body).2 events o' := by rwa [h]
  have hcons := Opens.cons body hnext
  rwa [h] at hcons

theorem snoc (h : Opens target o events (.waiting phase)) (body : Bytes) :
    Opens target o (events ++ eventsOn body (phase.receive target body).1)
      (phase.receive target body).2 := by
  generalize hlast : Opening.waiting phase = last at h
  induction h with
  | nil o =>
      subst hlast
      simpa using Opens.cons body (.nil _)
  | cons first opens ih => simpa using Opens.cons first (ih hlast)

theorem later_of_framesOf (h : Opens target o events o') (h' : Opens target o events' o'')
    (hframes : framesOf events' = framesOf events ++ bodies) :
    ∃ later, events' = events ++ later ∧ framesOf later = bodies ∧ Opens target o' later o'' := by
  induction h generalizing events' with
  | nil o => exact ⟨events', rfl, hframes, h'⟩
  | cons body opens ih =>
      cases h' with
      | nil => simp at hframes
      | cons body' opens' =>
          obtain ⟨rfl, htail⟩ : body' = body ∧ framesOf _ = framesOf _ ++ bodies := by
            simpa using hframes
          obtain ⟨later, rfl, hlater, hopens⟩ := ih opens' htail
          exact ⟨later, by simp, hlater, hopens⟩

/-- After the request for a channel, each frame is answered in the same way. -/
theorem induction_of_confirmation {motive : List Event → Prop} (nil : motive [])
    (step : ∀ body later, motive later → motive
      (eventsOn body (List.replicate (asksReply body).toNat .requestFailure) ++ later))
    {first : Opening} (h : Opens target first events o) (hfirst : first = .waiting .confirmation) :
    motive events := by
  induction h with
  | nil => exact nil
  | @cons phase events o body opens ih =>
      obtain rfl := Opening.waiting.inj hfirst
      obtain ⟨hsent, hnext⟩ := confirmation_cases target body
      rw [hsent]
      apply step
      rcases hnext with ⟨-, hwaiting⟩ | ⟨c, -, hopened⟩ | ⟨fault, hfailed⟩
      · exact ih hwaiting
      · obtain ⟨rfl, -⟩ := opens.of_over (by simp [hopened])
        exact nil
      · obtain ⟨rfl, -⟩ := opens.of_over (by simp [hfailed])
        exact nil

theorem sentOf_of_confirmation (h : Opens target (.waiting .confirmation) events o) :
    sentOf events = List.replicate ((framesOf events).countP asksReply) .requestFailure := by
  refine induction_of_confirmation (motive := fun events => sentOf events =
    List.replicate ((framesOf events).countP asksReply) .requestFailure) rfl ?_ h rfl
  intro body later ih
  have hcount : [body].countP asksReply = (asksReply body).toNat := by
    cases hasks : asksReply body <;> simp [hasks]
  rw [sentOf_append, framesOf_append, sentOf_eventsOn, framesOf_eventsOn, ih, List.countP_append,
    hcount, List.replicate_append_replicate]

/-- What a run after the request for a channel has come to. -/
theorem of_confirmation {first : Opening} (h : Opens target first events o)
    (hfirst : first = .waiting .confirmation) :
    (o = .waiting .confirmation ∧ ∀ body ∈ framesOf events, Passes body) ∨
      (∃ c passed confirmation, o = .opened c ∧ framesOf events = passed ++ [confirmation] ∧
        (∀ body ∈ passed, Passes body) ∧ Confirms c confirmation) ∨
      ∃ fault, o = .failed fault := by
  induction h with
  | nil => exact .inl ⟨hfirst, by simp⟩
  | @cons phase events o body opens ih =>
      obtain rfl := Opening.waiting.inj hfirst
      rcases (confirmation_cases target body).2 with
        ⟨hpasses, hwaiting⟩ | ⟨c, hconfirms, hopened⟩ | ⟨fault, hfailed⟩
      · rcases ih hwaiting with ⟨ho, hall⟩ | ⟨c, passed, last, ho, hframes, hall, hlast⟩ | ho
        · exact .inl ⟨ho, by simpa [hpasses] using hall⟩
        · refine .inr (.inl ⟨c, body :: passed, last, ho, by simp [hframes], ?_, hlast⟩)
          simpa [hpasses] using hall
        · exact .inr (.inr ho)
      · obtain ⟨rfl, rfl⟩ := opens.of_over (by simp [hopened])
        exact .inr (.inl ⟨c, [], body, hopened, by simp, by simp, hconfirms⟩)
      · obtain ⟨rfl, rfl⟩ := opens.of_over (by simp [hfailed])
        exact .inr (.inr ⟨fault, hfailed⟩)

theorem asks_or_ends (h : Opens target (.waiting .hello) events o) :
    (∃ greeting agreement later, Greets greeting ∧ Agrees agreement ∧
        events = eventsOn greeting [.proxy] ++ (eventsOn agreement [.channelOpen target] ++ later) ∧
        Opens target (.waiting .confirmation) later o) ∨
      (∃ phase, o = .waiting phase ∧ Awaits phase (framesOf events)) ∨
      ∃ fault, o = .failed fault := by
  cases h with
  | nil => exact .inr (.inl ⟨.hello, rfl, .hello⟩)
  | cons greeting opens =>
      rcases greets_or_fails target greeting with hgreets | ⟨fault, hreceive⟩
      · rw [receive_of_greets target hgreets] at opens ⊢
        cases opens with
        | nil => exact .inr (.inl ⟨.proxy, rfl, by simpa using Awaits.proxy hgreets⟩)
        | cons agreement opens =>
            rcases agrees_or_fails target agreement with ⟨hagrees, hfits⟩ | ⟨fault, hreceive⟩
            · rw [receive_of_agrees hfits hagrees] at opens ⊢
              exact .inl ⟨greeting, agreement, _, hgreets, hagrees, rfl, opens⟩
            · obtain ⟨-, rfl⟩ := opens.of_over (by simp [hreceive])
              exact .inr (.inr ⟨fault, by rw [hreceive]⟩)
      · obtain ⟨-, rfl⟩ := opens.of_over (by simp [hreceive])
        exact .inr (.inr ⟨fault, by rw [hreceive]⟩)

theorem awaits (h : Opens target (.waiting .hello) events (.waiting phase)) :
    Awaits phase (framesOf events) := by
  rcases h.asks_or_ends with
    ⟨greeting, agreement, later, hgreets, hagrees, rfl, hlater⟩ | ⟨_, ho, hawaits⟩ | ⟨_, ho⟩
  · rcases hlater.of_confirmation rfl with ⟨ho, hpasses⟩ | ⟨_, _, _, ho, -⟩ | ⟨_, ho⟩
    · obtain rfl := Opening.waiting.inj ho
      simpa using Awaits.confirmation hgreets hagrees hpasses
    · cases ho
    · cases ho
  · obtain rfl := Opening.waiting.inj ho
    exact hawaits
  · cases ho

/-- A channel is opened by a master that grants it, and requests on the way have been refused. -/
theorem grants (h : Opens target (.waiting .hello) events (.opened c)) :
    ∃ passed, Grants c passed (framesOf events) ∧ sentOf events =
      .proxy :: .channelOpen target ::
        List.replicate (passed.countP asksReply) .requestFailure := by
  rcases h.asks_or_ends with
    ⟨greeting, agreement, later, hgreets, hagrees, rfl, hlater⟩ | ⟨_, ho, -⟩ | ⟨_, ho⟩
  · rcases hlater.of_confirmation rfl with
      ⟨ho, -⟩ | ⟨_, passed, last, ho, hframes, hpasses, hlast⟩ | ⟨_, ho⟩
    · cases ho
    · obtain rfl := Opening.opened.inj ho
      have hsent := hlater.sentOf_of_confirmation
      rw [hframes, List.countP_append] at hsent
      refine ⟨passed, by simpa [hframes] using Grants.intro hgreets hagrees hpasses hlast, ?_⟩
      simp [hsent, hlast.not_asksReply]
    · cases ho
  · cases ho
  · cases ho

theorem exists_of_passes (target : Target) {passed : List Bytes}
    (h : ∀ body ∈ passed, Passes body) : ∃ events,
      Opens target (.waiting .confirmation) events (.waiting .confirmation) ∧
        framesOf events = passed := by
  induction passed with
  | nil => exact ⟨[], .nil _, rfl⟩
  | cons body passed ih =>
      obtain ⟨events, hopens, hframes⟩ := ih fun b hb => h b (List.mem_cons_of_mem _ hb)
      have hreceive := receiveWhileOpening_of_passes target (h body List.mem_cons_self)
      exact ⟨_, .of_receive hreceive hopens, by simp [hframes]⟩

theorem exists_of_awaits (h : Awaits phase bodies) (hfits : fits target = true) : ∃ events,
    Opens target (.waiting .hello) events (.waiting phase) ∧ framesOf events = bodies := by
  cases h with
  | hello => exact ⟨[], .nil _, rfl⟩
  | proxy greets =>
      exact ⟨_, .of_receive (receive_of_greets target greets) (.nil _), by simp⟩
  | confirmation greets agrees passes =>
      obtain ⟨events, hopens, hframes⟩ := exists_of_passes target passes
      exact ⟨_, .of_receive (receive_of_greets target greets)
        (.of_receive (receive_of_agrees hfits agrees) hopens), by simp [hframes]⟩

theorem exists_of_grants {passed : List Bytes} (h : Grants c passed bodies)
    (hfits : fits target = true) : ∃ events,
      Opens target (.waiting .hello) events (.opened c) ∧ framesOf events = bodies := by
  cases h with
  | @intro _ _ confirmation greets agrees passes confirms =>
      obtain ⟨events, hopens, hframes⟩ :=
        exists_of_awaits (.confirmation greets agrees passes) hfits
      have hopened := hopens.snoc confirmation
      rw [Phase.receive, receiveWhileOpening_of_confirms target confirms] at hopened
      exact ⟨_, hopened, by simp [hframes]⟩

end Opens

end SshTunnel.Mux
