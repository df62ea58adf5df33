import SshTunnel.Proofs.Resolution.Protocol

/-!
# Carrying out a plan follows the protocol

The functions that offer keys, methods and whole chains of them each lead from a phase in which the
host key is trusted to another phase (`Leads`), and a login tells what that phase is. From these
steps `execute` is a run of the protocol from its start to an end.
-/

namespace SshTunnel

section Offers

variable {dialer : Dialer} {plan : Plan} {timeout : Duration} {server : Server}

def LoggedIn (dialer : Dialer) (plan : Plan) (timeout : Duration) (server : Server)
    (phase : Phase) : Except Error Unit → Prop
  | .ok _ => phase = .loggedIn server
  | .error e => Ends dialer plan timeout phase (.error e)

/-- The events of a step lead from the phase after some offers to the one after all the offers of
the step, if these are rejected, and otherwise to where the login leaves the resolution. -/
def Leads (dialer : Dialer) (plan : Plan) (timeout : Duration) (server : Server)
    (history offers : List Offer) (step : List Event × Login) : Prop :=
  ∃ phase, Runs dialer plan timeout (.trusted server history) step.1 phase ∧
    ((step.2 = .rejected ∧ phase = .trusted server (history ++ offers) ∧
        offersOf step.1 = offers) ∨
      (step.2 ≠ .rejected ∧
        LoggedIn dialer plan timeout server phase (step.2.result plan.user timeout)))

theorem Leads.nil (history : List Offer) :
    Leads dialer plan timeout server history [] ([], .rejected) :=
  ⟨.trusted server history, .nil _, .inl ⟨rfl, by simp, rfl⟩⟩

theorem offersOf_append (events events' : List Event) :
    offersOf (events ++ events') = offersOf events ++ offersOf events' := by
  simp [offersOf]

theorem Leads.append {history offers offers' : List Offer} {events : List Event}
    {step : List Event × Login}
    (h : Leads dialer plan timeout server history offers (events, .rejected))
    (h' : Leads dialer plan timeout server (history ++ offers) offers' step) :
    Leads dialer plan timeout server history (offers ++ offers') (events ++ step.1, step.2) := by
  obtain ⟨_, hruns, ⟨-, rfl, hoffers⟩ | ⟨hlogin, -⟩⟩ := h
  · obtain ⟨phase, hruns', hphase⟩ := h'
    refine ⟨phase, hruns.append hruns', ?_⟩
    rcases hphase with ⟨hlogin, rfl, hoffers'⟩ | hphase
    · refine .inl ⟨hlogin, by rw [List.append_assoc], ?_⟩
      rw [offersOf_append, hoffers, hoffers']
    · exact .inr hphase
  · exact absurd rfl hlogin

/-! ## Single offers -/

/-- A method in its place in the chain, whose turn it is to make offers. -/
structure Turn (plan : Plan) (server : Server) (before : List AuthMethod) (m : AuthMethod) :
    Prop where
  exchange : server.exchange = .ok ()
  methods : ∃ after, plan.auth = before ++ m :: after
  ready : AuthMethod.AllReady server plan.user (before ++ [m])

theorem Turn.move (dialer : Dialer) (timeout : Duration) {before : List AuthMethod}
    {m : AuthMethod} (turn : Turn plan server before m) {history made left : List Offer}
    {offer : Offer} (hoffers : m.offers plan.user = made ++ offer :: left)
    (hplace : history = AuthMethod.allOffers plan.user before ++ made) :
    Moves dialer plan timeout (.trusted server history)
      (.offered offer (server.answer history offer = .accepted))
      (.answered server history m offer (server.answer history offer)) := by
  obtain ⟨after, hmethods⟩ := turn.methods
  exact .offer turn.exchange hmethods turn.ready hoffers hplace

theorem offerOnce_leads {before : List AuthMethod} {m : AuthMethod}
    (turn : Turn plan server before m) (hkind : m.kind ≠ .agent) {offer : Offer}
    (hoffers : m.offers plan.user = [offer]) :
    Leads dialer plan timeout server (AuthMethod.allOffers plan.user before) [offer]
      (offerOnce server (AuthMethod.allOffers plan.user before) offer) := by
  have hfirst : m.offers plan.user = [] ++ offer :: [] := hoffers
  have hmove := turn.move dialer timeout hfirst (List.append_nil _).symm
  rw [offerOnce, Server.tell]
  cases hanswer : server.answer (AuthMethod.allOffers plan.user before) offer with
  | accepted =>
      rw [hanswer] at hmove
      exact ⟨_, .single hmove, .inr ⟨by simp, rfl⟩⟩
  | rejected =>
      rw [hanswer] at hmove
      exact ⟨_, .single hmove, .inl ⟨rfl, rfl, rfl⟩⟩
  | broken reason =>
      rw [hanswer, Phase.answered, if_neg hkind] at hmove
      exact ⟨_, .single hmove, .inr ⟨by simp, .broken⟩⟩
  | none =>
      rw [hanswer] at hmove
      exact ⟨_, .single hmove, .inr ⟨by simp, .unanswered⟩⟩

/-- An agent offers the keys that it signs with, one after the other, also after one that breaks the
connection. -/
theorem offerIdentities_leads {before : List AuthMethod} {agent : Agent}
    (turn : Turn plan server before (.agent agent)) (identities : List Identity)
    (made : List Offer)
    (hoffers : (AuthMethod.agent agent).offers plan.user =
      made ++ (AuthMethod.agent (.lists identities)).offers plan.user) :
    Leads dialer plan timeout server (AuthMethod.allOffers plan.user before ++ made)
      ((AuthMethod.agent (.lists identities)).offers plan.user)
      (offerIdentities server plan.user (AuthMethod.allOffers plan.user before ++ made)
        identities) := by
  induction identities generalizing made with
  | nil => exact .nil _
  | cons identity identities ih =>
      by_cases hsigns : identity.signs = true
      · rw [AuthMethod.offers_lists_cons_of_signs _ hsigns] at hoffers ⊢
        have hmove := turn.move dialer timeout hoffers rfl
        have hnext := ih (made ++ [⟨plan.user, .key identity.key⟩]) (by simpa using hoffers)
        rw [← List.append_assoc] at hnext
        rw [offerIdentities, if_pos hsigns, Server.tell]
        cases hanswer : server.answer (AuthMethod.allOffers plan.user before ++ made)
            ⟨plan.user, .key identity.key⟩ with
        | accepted =>
            rw [hanswer] at hmove
            exact ⟨_, .single hmove, .inr ⟨by simp, rfl⟩⟩
        | none =>
            rw [hanswer] at hmove
            exact ⟨_, .single hmove, .inr ⟨by simp, .unanswered⟩⟩
        | rejected =>
            rw [hanswer] at hmove
            exact Leads.append ⟨_, .single hmove, .inl ⟨rfl, rfl, rfl⟩⟩ hnext
        | broken reason =>
            rw [hanswer] at hmove
            exact Leads.append ⟨_, .single hmove, .inl ⟨rfl, rfl, rfl⟩⟩ hnext
      · rw [AuthMethod.offers_lists_cons_of_not_signs _ hsigns] at hoffers ⊢
        rw [offerIdentities, if_neg hsigns]
        exact ih made hoffers

/-! ## Methods and chains of them -/

theorem offerAgent_leads {before : List AuthMethod} {agent : Agent}
    (turn : Turn plan server before (.agent agent)) (hhangs : agent ≠ .hangs)
    (hagreement : (AuthMethod.agent agent).needsAgreement = true →
      server.agreement (AuthMethod.allOffers plan.user before) = .ok ()) :
    Leads dialer plan timeout server (AuthMethod.allOffers plan.user before)
      ((AuthMethod.agent agent).offers plan.user)
      (offerAgent server plan.user (AuthMethod.allOffers plan.user before) agent) := by
  cases agent with
  | refuses => exact .nil _
  | hangs => exact absurd rfl hhangs
  | lists identities =>
      cases identities with
      | nil => exact .nil _
      | cons identity identities =>
          have hkeys : Leads dialer plan timeout server
              (AuthMethod.allOffers plan.user before ++ []) _ _ :=
            offerIdentities_leads turn _ [] rfl
          rw [List.append_nil] at hkeys
          rw [offerAgent, Server.agreeing, hagreement (by simp [AuthMethod.needsAgreement])]
          · exact hkeys
          · simp

theorem offerMethod_of_disagreement {m : AuthMethod} {history : List Offer} {reason : String}
    (hneeds : m.needsAgreement = true) (h : server.agreement history = .error reason)
    (user : String) : offerMethod server user history m = ([], .failed reason) := by
  cases m with
  | password text => simp [AuthMethod.needsAgreement] at hneeds
  | privateKey path key => rw [offerMethod, Server.agreeing, h]
  | agent agent =>
      cases agent with
      | refuses => simp [AuthMethod.needsAgreement] at hneeds
      | hangs => simp [AuthMethod.needsAgreement] at hneeds
      | lists identities =>
          cases identities with
          | nil => simp [AuthMethod.needsAgreement] at hneeds
          | cons identity identities =>
              rw [offerMethod, offerAgent, Server.agreeing, h]
              simp

theorem Turn.leads {before : List AuthMethod} {m : AuthMethod} (turn : Turn plan server before m) :
    Leads dialer plan timeout server (AuthMethod.allOffers plan.user before) (m.offers plan.user)
      (offerMethod server plan.user (AuthMethod.allOffers plan.user before) m) := by
  obtain ⟨hhangs, hagreement⟩ := turn.ready before m [] rfl
  cases m with
  | password text => exact offerOnce_leads turn (by simp [AuthMethod.kind]) rfl
  | privateKey path key =>
      rw [offerMethod, Server.agreeing, hagreement rfl]
      exact offerOnce_leads turn (by simp [AuthMethod.kind]) rfl
  | agent agent =>
      exact offerAgent_leads turn (fun h => hhangs (by rw [h])) hagreement

/-- A method that cannot make its offers ends the resolution. -/
theorem leads_of_not_ready (dialer : Dialer) (timeout : Duration)
    {before after : List AuthMethod} {m : AuthMethod}
    (hexchange : server.exchange = .ok ()) (hmethods : plan.auth = before ++ m :: after)
    (hready : AuthMethod.AllReady server plan.user before)
    (hm : ¬ m.Ready server (AuthMethod.allOffers plan.user before)) :
    ∃ login, offerMethod server plan.user (AuthMethod.allOffers plan.user before) m = ([], login) ∧
      login ≠ .rejected ∧ LoggedIn dialer plan timeout server
        (.trusted server (AuthMethod.allOffers plan.user before))
        (login.result plan.user timeout) := by
  by_cases hhangs : m = .agent .hangs
  · subst hhangs
    exact ⟨.hanging, rfl, by simp, .agentHangs hexchange hmethods hready rfl⟩
  · have hneeds : m.needsAgreement = true ∧
        server.agreement (AuthMethod.allOffers plan.user before) ≠ .ok () := by
      simpa [AuthMethod.Ready, hhangs] using hm
    cases hagreement : server.agreement (AuthMethod.allOffers plan.user before) with
    | ok _ => exact absurd hagreement hneeds.2
    | error reason =>
        exact ⟨.failed reason, offerMethod_of_disagreement hneeds.1 hagreement plan.user, by simp,
          .disagreement hexchange hmethods hready rfl hneeds.1 hagreement⟩

theorem authenticate_cons_of_rejected {user : String} {history : List Offer} {m : AuthMethod}
    {events : List Event} (h : offerMethod server user history m = (events, .rejected))
    (methods : List AuthMethod) :
    authenticate server user history (m :: methods) =
      (events ++ (authenticate server user (history ++ offersOf events) methods).1,
        (authenticate server user (history ++ offersOf events) methods).2) := by
  rw [authenticate, h]

theorem authenticate_cons_of_not_rejected {user : String} {history : List Offer} {m : AuthMethod}
    (h : (offerMethod server user history m).2 ≠ .rejected) (methods : List AuthMethod) :
    authenticate server user history (m :: methods) = offerMethod server user history m := by
  rw [authenticate]
  split
  · next events login hstep =>
      rw [hstep] at h
      split
      · exact absurd rfl h
      · rw [hstep]

theorem authenticate_runs (hexchange : server.exchange = .ok ()) (methods : List AuthMethod) :
    ∀ before, plan.auth = before ++ methods → AuthMethod.AllReady server plan.user before →
      ∃ phase, Runs dialer plan timeout (.trusted server (AuthMethod.allOffers plan.user before))
          (authenticate server plan.user (AuthMethod.allOffers plan.user before) methods).1 phase ∧
        LoggedIn dialer plan timeout server phase
          ((authenticate server plan.user (AuthMethod.allOffers plan.user before) methods).2.result
            plan.user timeout) := by
  induction methods with
  | nil =>
      intro before hmethods hready
      rw [List.append_nil] at hmethods
      rw [← hmethods] at hready ⊢
      exact ⟨_, .nil _, .exhausted hexchange hready rfl⟩
  | cons m methods ih =>
      intro before hmethods hready
      by_cases hm : m.Ready server (AuthMethod.allOffers plan.user before)
      · have hready' := hready.append_singleton hm
        have hleads : Leads dialer plan timeout server _ _ _ :=
          Turn.leads ⟨hexchange, ⟨methods, hmethods⟩, hready'⟩
        obtain ⟨phase, hruns, ⟨hlogin, rfl, hoffers⟩ | ⟨hlogin, hlogged⟩⟩ := hleads
        · obtain ⟨phase, hruns', hlogged⟩ := ih (before ++ [m]) (by simpa using hmethods) hready'
          rw [AuthMethod.allOffers_append_singleton, ← hoffers] at hruns' hlogged
          rw [authenticate_cons_of_rejected (Prod.ext rfl hlogin)]
          exact ⟨phase, (hoffers ▸ hruns).append hruns', hlogged⟩
        · rw [authenticate_cons_of_not_rejected hlogin]
          exact ⟨phase, hruns, hlogged⟩
      · obtain ⟨login, hstep, hlogin, hlogged⟩ :=
          leads_of_not_ready dialer timeout hexchange hmethods hready hm
        rw [authenticate_cons_of_not_rejected (by rw [hstep]; exact hlogin), hstep]
        exact ⟨_, .nil _, hlogged⟩

theorem establish_runs (dialer : Dialer) (plan : Plan) (timeout : Duration) (server : Server) :
    ∃ phase, Runs dialer plan timeout (.trusted server []) (establish server plan timeout).events
        phase ∧
      LoggedIn dialer plan timeout server phase (establish server plan timeout).result := by
  rw [establish]
  cases hexchange : server.exchange with
  | error reason => exact ⟨_, .nil _, .exchange hexchange⟩
  | ok _ => exact authenticate_runs hexchange plan.auth [] rfl (AuthMethod.allReady_nil _ _)

end Offers

section Execution

variable (dialer : Dialer) (plan : Plan) (timeout : Duration)

/-- A handshake leads from the phase after dialing to a server that is logged in to, or to an
end. -/
theorem handshake_runs {peer : Peer} (hdial : dialer plan.route plan.target timeout = .ok peer) :
    ∃ phase, Runs dialer plan timeout .dialed (handshake peer plan timeout).events phase ∧
      match (handshake peer plan timeout).result with
      | .ok server => phase = .loggedIn server
      | .error e => Ends dialer plan timeout phase (.error e) := by
  rw [handshake.eq_def]
  by_cases htime : timeout.isZero = true
  · rw [if_pos htime]
    exact ⟨_, .nil _, .late hdial htime⟩
  · have htime' : timeout.isZero = false := by simpa using htime
    rw [if_neg htime]
    cases peer with
    | silent => exact ⟨_, .nil _, .silent hdial htime'⟩
    | broken reason => exact ⟨_, .nil _, .noServer hdial htime'⟩
    | server server =>
        by_cases htrusts : plan.Trusts server
        · obtain ⟨phase, hruns, hlogged⟩ := establish_runs dialer plan timeout server
          rw [Plan.Trusts] at htrusts
          simp only [htrusts, if_true]
          refine ⟨phase, .cons (.accept hdial htime' htrusts) hruns, ?_⟩
          cases hresult : (establish server plan timeout).result with
          | ok _ => simpa [hresult, Except.map, LoggedIn] using hlogged
          | error e => simpa [hresult, Except.map, LoggedIn] using hlogged
        · have hrefuse := Moves.refuse hdial htime' htrusts
          rw [Plan.Trusts, Bool.not_eq_true] at htrusts
          simp only [htrusts, Bool.false_eq_true, if_false]
          exact ⟨_, .single hrefuse, .untrusted⟩

theorem openSocket_runs (server : Server) :
    ∃ phase, Runs dialer plan timeout (.loggedIn server) (openSocket server plan).events phase ∧
      Ends dialer plan timeout phase (openSocket server plan).result := by
  rw [openSocket]
  cases hopens : server.opens plan.remoteSocket with
  | ok _ => exact ⟨_, .single (.openSocket hopens), .stream⟩
  | error reason =>
      exact ⟨_, .cons (.failToOpen hopens) (.single .disconnect), .ended⟩

theorem execute_runs :
    ∃ phase, Runs dialer plan timeout .start (execute dialer plan timeout).events phase ∧
      Ends dialer plan timeout phase (execute dialer plan timeout).result := by
  rw [execute]
  cases hdial : dialer plan.route plan.target timeout with
  | error e => exact ⟨_, .single .dial, .dialFailed hdial⟩
  | ok peer =>
      obtain ⟨phase, hruns, hphase⟩ := handshake_runs dialer plan timeout hdial
      cases hresult : (handshake peer plan timeout).result with
      | error e =>
          rw [hresult] at hphase
          simp only [hresult]
          exact ⟨phase, .cons .dial hruns, hphase⟩
      | ok server =>
          rw [hresult] at hphase
          obtain ⟨phase', hopens, hends⟩ := openSocket_runs dialer plan timeout server
          simp only [hresult]
          refine ⟨phase', .cons .dial (hruns.append ?_), hends⟩
          rw [hphase]
          exact hopens

end Execution

end SshTunnel
