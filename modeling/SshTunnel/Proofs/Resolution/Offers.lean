import SshTunnel.Proofs.Resolution.Execution

/-!
# Offers are made until one is accepted

The methods of a chain stand for one sequence of offers, in which an agent has a place for each key
that it signs with. `Tries` follows a sequence offer by offer: it ends with the first that is
accepted, with the last, or where a fault ends it. Single offers, agents, methods and whole chains
all go through their sequence in this way (`authenticate_tries`), and without faults it goes on to
an accepted offer or to the end (`establish_until_accepted`).
-/

namespace SshTunnel

/-! ## Sequences of offers -/

/-- No offer of a sequence is accepted when it is made after those before it. -/
def AllRefused (server : Server) : List Offer → List Offer → Prop
  | _, [] => True
  | history, offer :: offers =>
      server.answer history offer ≠ .accepted ∧ AllRefused server (history ++ [offer]) offers

@[simp] theorem allRefused_nil (server : Server) (history : List Offer) :
    AllRefused server history [] := trivial

theorem allRefused_cons (server : Server) (history : List Offer) (offer : Offer)
    (offers : List Offer) :
    AllRefused server history (offer :: offers) ↔
      server.answer history offer ≠ .accepted ∧ AllRefused server (history ++ [offer]) offers :=
  Iff.rfl

theorem allRefused_append (server : Server) (history offers offers' : List Offer) :
    AllRefused server history (offers ++ offers') ↔
      AllRefused server history offers ∧ AllRefused server (history ++ offers) offers' := by
  induction offers generalizing history with
  | nil => simp
  | cons offer offers ih =>
      rw [List.cons_append, allRefused_cons, allRefused_cons, ih, and_assoc,
        List.append_cons history offer offers]

theorem AllRefused.ne_accepted {server : Server} {history before after : List Offer}
    {offer : Offer} (h : AllRefused server history (before ++ offer :: after)) :
    server.answer (history ++ before) offer ≠ .accepted :=
  ((allRefused_append server history before (offer :: after)).1 h).2.1

section Tries

variable {server : Server}

/-- Offers of a sequence that are made after others, and what comes of the last one. -/
inductive Tries (server : Server) : List Offer → List Offer → List Offer → Login → Prop
  | done (history : List Offer) : Tries server history [] [] .rejected
  | accept {history left : List Offer} {offer : Offer}
      (accepted : server.answer history offer = .accepted) :
      Tries server history (offer :: left) [offer] .accepted
  | refuse {history left made : List Offer} {offer : Offer} {login : Login}
      (refused : server.answer history offer ≠ .accepted)
      (rest : Tries server (history ++ [offer]) left made login) :
      Tries server history (offer :: left) (offer :: made) login
  /-- A fault ends the offering wherever it is. -/
  | fault (history left : List Offer) {login : Login} (fails : login ≠ .accepted)
      (ends : login ≠ .rejected) : Tries server history left [] login

theorem Tries.append {history offers made offers' made' : List Offer} {login : Login}
    (h : Tries server history offers made .rejected)
    (h' : Tries server (history ++ offers) offers' made' login) :
    Tries server history (offers ++ offers') (made ++ made') login := by
  generalize hlogin : Login.rejected = first at h
  induction h with
  | done history => simpa using h'
  | accept accepted => simp at hlogin
  | refuse refused rest ih =>
      rw [List.append_cons] at h'
      exact .refuse refused (ih h' hlogin)
  | fault history left fails ends => exact absurd hlogin.symm ends

theorem Tries.append_right {history offers made : List Offer} {login : Login}
    (h : Tries server history offers made login) (hlogin : login ≠ .rejected)
    (left : List Offer) : Tries server history (offers ++ left) made login := by
  induction h with
  | done history => exact absurd rfl hlogin
  | accept accepted => exact .accept accepted
  | refuse refused rest ih => exact .refuse refused (ih hlogin)
  | fault history offers fails ends => exact .fault history _ fails ends

theorem Tries.of_rejected {history offers made : List Offer}
    (h : Tries server history offers made .rejected) :
    made = offers ∧ AllRefused server history offers := by
  generalize hlogin : Login.rejected = login at h
  induction h with
  | done history => exact ⟨rfl, trivial⟩
  | accept accepted => simp at hlogin
  | refuse refused rest ih =>
      obtain ⟨rfl, hrefused⟩ := ih hlogin
      exact ⟨rfl, refused, hrefused⟩
  | fault history left fails ends => exact absurd hlogin.symm ends

theorem Tries.of_accepted {history offers made : List Offer}
    (h : Tries server history offers made .accepted) :
    ∃ before offer after, offers = before ++ offer :: after ∧ AllRefused server history before ∧
      server.answer (history ++ before) offer = .accepted ∧ made = before ++ [offer] := by
  generalize hlogin : Login.accepted = login at h
  induction h with
  | done history => simp at hlogin
  | accept accepted => exact ⟨[], _, _, rfl, trivial, by rwa [List.append_nil], rfl⟩
  | @refuse history left made offer login refused rest ih =>
      obtain ⟨before, next, after, rfl, hbefore, hnext, rfl⟩ := ih hlogin
      refine ⟨offer :: before, next, after, rfl, ⟨refused, hbefore⟩, ?_, rfl⟩
      rwa [List.append_cons]
  | fault history left fails ends => exact absurd hlogin.symm fails

/-! ## Steps of authentication -/

/-- A step goes through a sequence of offers, and its login tells what comes of it. -/
def Goes (server : Server) (history offers : List Offer) (step : List Event × Login) : Prop :=
  Tries server history offers (offersOf step.1) step.2

theorem goes_offerOnce (history : List Offer) (offer : Offer) :
    Goes server history [offer] (offerOnce server history offer) := by
  rw [offerOnce, Server.tell]
  cases hanswer : server.answer history offer with
  | accepted => exact .accept hanswer
  | rejected => exact .refuse (by simp [hanswer]) (.done _)
  | broken reason => exact .refuse (by simp [hanswer]) (.fault _ _ (by simp) (by simp))
  | none => exact .refuse (by simp [hanswer]) (.fault _ _ (by simp) (by simp))

theorem goes_offerIdentities (user : String) (history : List Offer) (identities : List Identity) :
    Goes server history ((AuthMethod.agent (.lists identities)).offers user)
      (offerIdentities server user history identities) := by
  induction identities generalizing history with
  | nil => exact .done history
  | cons identity identities ih =>
      by_cases hsigns : identity.signs = true
      · have hnext := ih (history ++ [⟨user, .key identity.key⟩])
        rw [AuthMethod.offers_lists_cons_of_signs user hsigns, offerIdentities, if_pos hsigns,
          Server.tell]
        cases hanswer : server.answer history ⟨user, .key identity.key⟩ with
        | accepted => exact .accept hanswer
        | rejected => exact .refuse (by simp [hanswer]) hnext
        | broken reason => exact .refuse (by simp [hanswer]) hnext
        | none => exact .refuse (by simp [hanswer]) (.fault _ _ (by simp) (by simp))
      · rw [AuthMethod.offers_lists_cons_of_not_signs user hsigns, offerIdentities,
          if_neg hsigns]
        exact ih history

theorem Goes.agreeing {history offers : List Offer} {step : List Event × Login}
    (h : Goes server history offers step) :
    Goes server history offers (server.agreeing history step) := by
  rw [Server.agreeing]
  split
  · exact h
  · exact .fault history offers (by simp) (by simp)

theorem goes_offerMethod (server : Server) (user : String) (history : List Offer) (m : AuthMethod) :
    Goes server history (m.offers user) (offerMethod server user history m) := by
  cases m with
  | password text => exact goes_offerOnce history _
  | privateKey path key => exact (goes_offerOnce history _).agreeing
  | agent agent =>
      cases agent with
      | refuses => exact .done history
      | hangs =>
          rw [offerMethod, offerAgent]
          exact .fault history _ (by simp) (by simp)
      | lists identities =>
          cases identities with
          | nil => exact .done history
          | cons identity identities => exact (goes_offerIdentities user history _).agreeing

theorem authenticate_tries (server : Server) (user : String) (history : List Offer)
    (methods : List AuthMethod) :
    Goes server history (AuthMethod.allOffers user methods)
      (authenticate server user history methods) := by
  induction methods generalizing history with
  | nil => exact .done history
  | cons m methods ih =>
      have hstep := goes_offerMethod server user history m
      have hoffers : AuthMethod.allOffers user (m :: methods) =
          m.offers user ++ AuthMethod.allOffers user methods := rfl
      rw [hoffers]
      by_cases hlogin : (offerMethod server user history m).2 = .rejected
      · rw [authenticate_cons_of_rejected (Prod.ext rfl hlogin)]
        rw [Goes, hlogin] at hstep
        have hmade := hstep.of_rejected.1
        rw [Goes, offersOf_append]
        refine hstep.append ?_
        rw [← hmade]
        exact ih _
      · rw [authenticate_cons_of_not_rejected hlogin]
        exact hstep.append_right hlogin _

/-! ## Without faults -/

/-- A method meets no fault when its turn comes after some offers: it can make its offers, and each
that comes up is accepted or rejected. An offer of an agent may also fail, which the agent passes
over. -/
structure AuthMethod.Undisturbed (server : Server) (user : String) (history : List Offer)
    (m : AuthMethod) : Prop where
  ready : m.Ready server history
  answered : ∀ made offer left, m.offers user = made ++ offer :: left →
    AllRefused server history made → server.answer (history ++ made) offer ≠ .none
  unbroken : m.kind ≠ .agent → ∀ made offer left, m.offers user = made ++ offer :: left →
    AllRefused server history made →
      ∀ reason, server.answer (history ++ made) offer ≠ .broken reason

/-- No method meets a fault as long as the offers of the methods before it are refused. -/
def Undisturbed (server : Server) (user : String) (history : List Offer)
    (methods : List AuthMethod) : Prop :=
  ∀ before m after, methods = before ++ m :: after →
    AllRefused server history (AuthMethod.allOffers user before) →
      m.Undisturbed server user (history ++ AuthMethod.allOffers user before)

theorem undisturbed_of_forall {methods : List AuthMethod}
    (agreement : ∀ history, server.agreement history = .ok ())
    (answers : ∀ history offer, server.answer history offer = .accepted ∨
      server.answer history offer = .rejected)
    (hangs : .agent .hangs ∉ methods) (user : String) (history : List Offer) :
    Undisturbed server user history methods := by
  have hnone : ∀ history offer, server.answer history offer ≠ .none := by
    intro history offer hanswer
    simpa [hanswer] using answers history offer
  have hbroken : ∀ history offer reason, server.answer history offer ≠ .broken reason := by
    intro history offer reason hanswer
    simpa [hanswer] using answers history offer
  intro before m after heq _
  refine ⟨⟨?_, fun _ => agreement _⟩, fun _ _ _ _ _ => hnone _ _,
    fun _ _ _ _ _ _ _ => hbroken _ _ _⟩
  rintro rfl
  exact hangs (by simp [heq])

def Login.IsSettled (login : Login) : Prop :=
  login = .accepted ∨ login = .rejected

theorem isSettled_offerOnce {history : List Offer} {offer : Offer}
    (answered : server.answer history offer ≠ .none)
    (unbroken : ∀ reason, server.answer history offer ≠ .broken reason) :
    (offerOnce server history offer).2.IsSettled := by
  rw [offerOnce, Server.tell]
  cases hanswer : server.answer history offer with
  | accepted => exact .inl rfl
  | rejected => exact .inr rfl
  | broken reason => exact absurd hanswer (unbroken reason)
  | none => exact absurd hanswer answered

theorem isSettled_offerIdentities {user : String} {history : List Offer}
    {identities : List Identity}
    (answered : ∀ made offer left, (AuthMethod.agent (.lists identities)).offers user =
      made ++ offer :: left → AllRefused server history made →
        server.answer (history ++ made) offer ≠ .none) :
    (offerIdentities server user history identities).2.IsSettled := by
  induction identities generalizing history with
  | nil => exact .inr rfl
  | cons identity identities ih =>
      by_cases hsigns : identity.signs = true
      · rw [AuthMethod.offers_lists_cons_of_signs user hsigns] at answered
        have hfirst := answered [] ⟨user, .key identity.key⟩ _ rfl trivial
        rw [List.append_nil] at hfirst
        rw [offerIdentities, if_pos hsigns, Server.tell]
        -- the identities after this one come up if it is refused
        have hnext : server.answer history ⟨user, .key identity.key⟩ ≠ .accepted →
            (offerIdentities server user (history ++ [⟨user, .key identity.key⟩])
              identities).2.IsSettled := by
          intro hrefused
          apply ih
          intro made offer left heq hmade
          have hanswered := answered (⟨user, .key identity.key⟩ :: made) offer left
            (by rw [heq, List.cons_append]) ⟨hrefused, hmade⟩
          rwa [List.append_cons] at hanswered
        cases hanswer : server.answer history ⟨user, .key identity.key⟩ with
        | accepted => exact .inl rfl
        | none => exact absurd hanswer hfirst
        | rejected => exact hnext (by simp [hanswer])
        | broken reason => exact hnext (by simp [hanswer])
      · rw [AuthMethod.offers_lists_cons_of_not_signs user hsigns] at answered
        rw [offerIdentities, if_neg hsigns]
        exact ih answered

theorem AuthMethod.Undisturbed.isSettled_offerOnce {user : String} {history : List Offer}
    {m : AuthMethod} {offer : Offer} (h : m.Undisturbed server user history)
    (hkind : m.kind ≠ .agent) (hoffers : m.offers user = [offer]) :
    (offerOnce server history offer).2.IsSettled := by
  have hanswered := h.answered [] offer [] hoffers trivial
  have hunbroken := h.unbroken hkind [] offer [] hoffers trivial
  rw [List.append_nil] at hanswered hunbroken
  exact SshTunnel.isSettled_offerOnce hanswered hunbroken

theorem AuthMethod.Undisturbed.isSettled {user : String} {history : List Offer} {m : AuthMethod}
    (h : m.Undisturbed server user history) :
    (offerMethod server user history m).2.IsSettled := by
  obtain ⟨hhangs, hagreement⟩ := h.ready
  cases m with
  | password text => exact h.isSettled_offerOnce (by simp [kind]) rfl
  | privateKey path key =>
      rw [offerMethod, Server.agreeing, hagreement rfl]
      exact h.isSettled_offerOnce (by simp [kind]) rfl
  | agent agent =>
      cases agent with
      | refuses => exact .inr rfl
      | hangs => exact absurd rfl hhangs
      | lists identities =>
          cases identities with
          | nil => exact .inr rfl
          | cons identity identities =>
              rw [offerMethod, offerAgent, Server.agreeing,
                hagreement (by simp [needsAgreement])]
              · exact isSettled_offerIdentities h.answered
              · simp

theorem Undisturbed.tail {user : String} {history : List Offer} {m : AuthMethod}
    {methods : List AuthMethod} (h : Undisturbed server user history (m :: methods))
    (hrefused : AllRefused server history (m.offers user)) :
    Undisturbed server user (history ++ m.offers user) methods := by
  intro before m' after heq hbefore
  have hoffers : AuthMethod.allOffers user (m :: before) =
      m.offers user ++ AuthMethod.allOffers user before := rfl
  have hm' := h (m :: before) m' after (by rw [heq, List.cons_append])
    (by rw [hoffers, allRefused_append]; exact ⟨hrefused, hbefore⟩)
  rwa [hoffers, ← List.append_assoc] at hm'

theorem Undisturbed.isSettled {user : String} {history : List Offer} {methods : List AuthMethod}
    (h : Undisturbed server user history methods) :
    (authenticate server user history methods).2.IsSettled := by
  induction methods generalizing history with
  | nil => exact .inr rfl
  | cons m methods ih =>
      have hfirst := h [] m methods rfl trivial
      rw [AuthMethod.allOffers, List.flatMap_nil, List.append_nil] at hfirst
      rcases hfirst.isSettled with hlogin | hlogin
      · rw [authenticate_cons_of_not_rejected (by simp [hlogin])]
        exact .inl hlogin
      · have hstep := goes_offerMethod server user history m
        rw [Goes, hlogin] at hstep
        obtain ⟨hmade, hrefused⟩ := hstep.of_rejected
        rw [authenticate_cons_of_rejected (Prod.ext rfl hlogin), hmade]
        exact ih (h.tail hrefused)

end Tries

/-! ## The law -/

section Plans

variable {server : Server} {plan : Plan}

/-- Without faults the offers end with the first that is accepted, or all are made in vain. -/
theorem establish_cases (timeout : Duration) (exchange : server.exchange = .ok ())
    (undisturbed : Undisturbed server plan.user [] plan.auth) :
    (∃ before offer after, AuthMethod.allOffers plan.user plan.auth = before ++ offer :: after ∧
        AllRefused server [] before ∧ server.answer before offer = .accepted ∧
        offersOf (establish server plan timeout).events = before ++ [offer] ∧
        (establish server plan timeout).result = .ok ()) ∨
      (AllRefused server [] (AuthMethod.allOffers plan.user plan.auth) ∧
        offersOf (establish server plan timeout).events =
          AuthMethod.allOffers plan.user plan.auth ∧
        (establish server plan timeout).result = .error (.authenticationRejected plan.user)) := by
  have hrun : establish server plan timeout = ⟨(authenticate server plan.user [] plan.auth).1,
      (authenticate server plan.user [] plan.auth).2.result plan.user timeout⟩ := by
    simp only [establish, exchange]
  have htries := authenticate_tries server plan.user [] plan.auth
  rw [hrun]
  rcases undisturbed.isSettled with hlogin | hlogin
  · rw [Goes, hlogin] at htries
    obtain ⟨before, offer, after, hoffers, hbefore, haccepted, hmade⟩ := htries.of_accepted
    exact .inl ⟨before, offer, after, hoffers, hbefore, haccepted, hmade, by rw [hlogin]; rfl⟩
  · rw [Goes, hlogin] at htries
    obtain ⟨hmade, hrefused⟩ := htries.of_rejected
    exact .inr ⟨hrefused, hmade, by rw [hlogin]; rfl⟩

/-- The handshake with a server whose host key is accepted is that of the session. -/
theorem handshake_of_trusted {timeout : Duration} (htime : timeout.isZero = false)
    (htrusts : plan.Trusts server) :
    handshake (.server server) plan timeout =
      ⟨.judged plan.target.host plan.target.port server.hostKey true ::
          (establish server plan timeout).events,
        (establish server plan timeout).result.map fun _ => server⟩ := by
  rw [Plan.Trusts] at htrusts
  simp only [handshake, htime, htrusts, Bool.false_eq_true, if_false, if_true]

/-- If no fault disturbs the methods of a plan, what is offered is the sequence of their offers up
to the first that is accepted, and then the session is established; or it is the whole sequence, all
in vain, and then the error is that authentication is rejected for the user of the plan. A handshake
with a server whose host key is accepted comes to the same. -/
theorem establish_until_accepted (timeout : Duration)
    (exchange : server.exchange = .ok ())
    (undisturbed : Undisturbed server plan.user [] plan.auth) :
    let offers := AuthMethod.allOffers plan.user plan.auth
    let run := establish server plan timeout
    ((∃ before offer after, offers = before ++ offer :: after ∧ AllRefused server [] before ∧
          server.answer before offer = .accepted ∧ offersOf run.events = before ++ [offer] ∧
          run.result = .ok ()) ∨
        (AllRefused server [] offers ∧ offersOf run.events = offers ∧
          run.result = .error (.authenticationRejected plan.user))) ∧
      (run.result = .ok () ↔ ∃ before offer after, offers = before ++ offer :: after ∧
        server.answer before offer = .accepted) ∧
      (run.result = .error (.authenticationRejected plan.user) ↔ AllRefused server [] offers) ∧
      (timeout.isZero = false → plan.Trusts server →
        offersOf (handshake (.server server) plan timeout).events = offersOf run.events ∧
        (handshake (.server server) plan timeout).result = run.result.map fun _ => server) := by
  intro offers run
  have hcases := establish_cases timeout exchange undisturbed
  have hnone {before offer after} (hrefused : AllRefused server [] offers)
      (hoffers : offers = before ++ offer :: after) : server.answer before offer ≠ .accepted := by
    rw [hoffers] at hrefused
    exact hrefused.ne_accepted
  refine ⟨hcases, ?_, ?_, ?_⟩
  · rcases hcases with ⟨before, offer, after, hoffers, -, haccepted, -, hok⟩ | ⟨hrefused, -, herror⟩
    · simp only [run, hok, true_iff]
      exact ⟨before, offer, after, hoffers, haccepted⟩
    · simp only [run, herror, reduceCtorEq, false_iff]
      rintro ⟨before, offer, after, hoffers, haccepted⟩
      exact hnone hrefused hoffers haccepted
  · rcases hcases with ⟨before, offer, after, hoffers, -, haccepted, -, hok⟩ | ⟨hrefused, -, herror⟩
    · simp only [run, hok, reduceCtorEq, false_iff]
      exact fun hrefused => hnone hrefused hoffers haccepted
    · simp only [run, herror, true_iff]
      exact hrefused
  · intro htime htrusts
    rw [handshake_of_trusted htime htrusts]
    exact ⟨rfl, rfl⟩

end Plans

/-- Neither a key that is rejected nor one that the agent does not sign with keeps the agent from
offering its next key, and after a key that is accepted no password is offered. -/
theorem establish_of_third_key :
    let key (n : UInt8) : PublicKey := ⟨"ssh-ed25519", [[n]]⟩
    let server : Server :=
      { hostKey := key 0, opens := fun _ => .ok ()
        answer := fun _ offer =>
          if offer = ⟨"bob", .key (key 3)⟩ then .accepted else .rejected }
    let plan : Plan :=
      { target := ⟨"h1", 22⟩, user := "bob", trust := .acceptAll, route := .direct,
        remoteSocket := "/run/socket", notices := [],
        auth := [.agent (.lists [⟨key 1, "one", true⟩, ⟨key 2, "two", false⟩,
          ⟨key 3, "three", true⟩]), .password "secret"] }
    offersOf (establish server plan ⟨1⟩).events = [⟨"bob", .key (key 1)⟩, ⟨"bob", .key (key 3)⟩] ∧
      (establish server plan ⟨1⟩).result = .ok () := by
  intro key server plan
  have hanswers : ∀ history offer, server.answer history offer = .accepted ∨
      server.answer history offer = .rejected := by
    intro history offer
    dsimp only [server]
    split
    · exact .inl rfl
    · exact .inr rfl
  have hundisturbed : Undisturbed server plan.user [] plan.auth :=
    undisturbed_of_forall (fun _ => rfl) hanswers (by simp [plan]) _ _
  obtain ⟨hcases, hsuccess, -, -⟩ := establish_until_accepted ⟨1⟩ rfl hundisturbed
  have hok : (establish server plan ⟨1⟩).result = .ok () :=
    hsuccess.2 ⟨[⟨"bob", .key (key 1)⟩], ⟨"bob", .key (key 3)⟩, [⟨"bob", .password "secret"⟩],
      rfl, rfl⟩
  refine ⟨?_, hok⟩
  rcases hcases with ⟨before, offer, after, hoffers, hbefore, haccepted, hmade, -⟩ | ⟨-, -, herror⟩
  · replace hoffers : [⟨"bob", .key (key 1)⟩, ⟨"bob", .key (key 3)⟩, ⟨"bob", .password "secret"⟩] =
        before ++ offer :: after := hoffers
    rw [hmade]
    cases before with
    | nil =>
        obtain ⟨rfl, -⟩ := List.cons.inj hoffers
        simp [server, key] at haccepted
    | cons first before =>
        obtain ⟨rfl, hrest⟩ := List.cons.inj hoffers
        cases before with
        | nil =>
            obtain ⟨rfl, -⟩ := List.cons.inj hrest
            rfl
        | cons second before =>
            obtain ⟨rfl, -⟩ := List.cons.inj hrest
            exact absurd rfl hbefore.2.1
  · simp [hok] at herror

end SshTunnel
