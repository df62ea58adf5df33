import SshTunnel.Resolution

/-!
# The protocol of a resolution

A resolution goes from phase to phase: it dials, the host key is judged, credentials are offered,
and the remote socket is opened. `Moves` says which event leads from one phase to another,
`Runs` follows the events of a whole resolution, and `Ends` says in which phases a resolution
comes to an end, and with what. Nothing is offered before the host key has been accepted, and what
is offered are the credentials of the plan, in their order.
-/

namespace SshTunnel

/-! ## What methods offer -/

/-- The keys that an agent can be brought to sign with, in its order. -/
def Agent.usable : Agent → List PublicKey
  | lists identities => (identities.filter (·.signs)).map (·.key)
  | refuses | hangs => []

namespace AuthMethod

def offers (user : String) : AuthMethod → List Offer
  | .password text => [⟨user, .password text⟩]
  | .privateKey _ key => [⟨user, .key key⟩]
  | .agent a => a.usable.map fun key => ⟨user, .key key⟩

/-- Whether the server has to say how keys are to sign before a method can offer anything. -/
def needsAgreement : AuthMethod → Bool
  | .privateKey _ _ => true
  | .agent (.lists identities) => identities ≠ []
  | .password _ | .agent _ => false

/-- A method can make its offers after others. -/
def Ready (server : Server) (history : List Offer) (m : AuthMethod) : Prop :=
  m ≠ .agent .hangs ∧ (m.needsAgreement = true → server.agreement history = .ok ())

def allOffers (user : String) (methods : List AuthMethod) : List Offer :=
  methods.flatMap (offers user)

def AllReady (server : Server) (user : String) (methods : List AuthMethod) : Prop :=
  ∀ before m after, methods = before ++ m :: after → m.Ready server (allOffers user before)

theorem offers_lists_cons_of_signs (user : String) {identity : Identity}
    (h : identity.signs = true) (identities : List Identity) :
    (AuthMethod.agent (.lists (identity :: identities))).offers user =
      ⟨user, .key identity.key⟩ :: (AuthMethod.agent (.lists identities)).offers user := by
  simp [offers, Agent.usable, h]

theorem offers_lists_cons_of_not_signs (user : String) {identity : Identity}
    (h : ¬ identity.signs = true) (identities : List Identity) :
    (AuthMethod.agent (.lists (identity :: identities))).offers user =
      (AuthMethod.agent (.lists identities)).offers user := by
  simp [offers, Agent.usable, h]

theorem allOffers_append_singleton (user : String) (methods : List AuthMethod) (m : AuthMethod) :
    allOffers user (methods ++ [m]) = allOffers user methods ++ m.offers user := by
  simp [allOffers]

theorem allReady_nil (server : Server) (user : String) : AllReady server user [] := by
  intro before m after h
  simp at h

theorem AllReady.append_singleton {server : Server} {user : String} {methods : List AuthMethod}
    {m : AuthMethod} (h : AllReady server user methods)
    (hm : m.Ready server (allOffers user methods)) : AllReady server user (methods ++ [m]) := by
  intro before m' after heq
  rcases List.eq_nil_or_concat after with rfl | ⟨after, last, rfl⟩
  · obtain ⟨rfl, rfl⟩ : methods = before ∧ m = m' := by simpa using heq
    exact hm
  · rw [List.concat_eq_append, ← List.cons_append, ← List.append_assoc] at heq
    obtain ⟨rfl, -⟩ := List.append_inj' heq rfl
    exact h before m' after rfl

end AuthMethod

/-! ## Phases and what leads from one to another -/

/-- How far a resolution has come. -/
inductive Phase where
  | start
  | dialed
  /-- The host key is not accepted. -/
  | refused
  /-- The host key is accepted, and some offers have been made in vain. -/
  | trusted (server : Server) (history : List Offer)
  /-- The connection broke when an offer was made. -/
  | broken (reason : String)
  | unanswered
  | loggedIn (server : Server)
  | streaming
  /-- The remote socket cannot be opened. -/
  | unopened (reason : String)
  | ended (reason : String)

/-- Where the answer to an offer leads. An agent goes on with its next key when the connection
breaks. -/
def Phase.answered (server : Server) (history : List Offer) (m : AuthMethod) (offer : Offer) :
    Answer → Phase
  | .accepted => .loggedIn server
  | .rejected => .trusted server (history ++ [offer])
  | .broken reason =>
      if m.kind = .agent then .trusted server (history ++ [offer]) else .broken reason
  | .none => .unanswered

section Protocol

variable (dialer : Dialer) (plan : Plan) (timeout : Duration)

def Meets (server : Server) : Prop :=
  dialer plan.route plan.target timeout = .ok (.server server)

def Plan.Trusts (server : Server) : Prop :=
  plan.trust.accepts plan.target.host plan.target.port server.hostKey = true

/-- The events that lead from one phase to another. -/
inductive Moves : Phase → Event → Phase → Prop
  | dial : Moves .start (.dialed plan.route plan.target timeout) .dialed
  | accept {server : Server} (meets : Meets dialer plan timeout server)
      (time : timeout.isZero = false) (trusts : plan.Trusts server) :
      Moves .dialed (.judged plan.target.host plan.target.port server.hostKey true)
        (.trusted server [])
  | refuse {server : Server} (meets : Meets dialer plan timeout server)
      (time : timeout.isZero = false) (distrusts : ¬ plan.Trusts server) :
      Moves .dialed (.judged plan.target.host plan.target.port server.hostKey false) .refused
  | offer {server : Server} {before after : List AuthMethod} {m : AuthMethod}
      {history made left : List Offer} {offer : Offer} (exchange : server.exchange = .ok ())
      (methods : plan.auth = before ++ m :: after)
      (ready : AuthMethod.AllReady server plan.user (before ++ [m]))
      (offers : m.offers plan.user = made ++ offer :: left)
      (place : history = AuthMethod.allOffers plan.user before ++ made) :
      Moves (.trusted server history) (.offered offer (server.answer history offer = .accepted))
        (.answered server history m offer (server.answer history offer))
  | openSocket {server : Server} (opens : server.opens plan.remoteSocket = .ok ()) :
      Moves (.loggedIn server) (.opened plan.remoteSocket true) .streaming
  | failToOpen {server : Server} {reason : String}
      (opens : server.opens plan.remoteSocket = .error reason) :
      Moves (.loggedIn server) (.opened plan.remoteSocket false) (.unopened reason)
  | disconnect {reason : String} : Moves (.unopened reason) .disconnected (.ended reason)

/-- Events that lead from one phase to another, one after the other. -/
inductive Runs : Phase → List Event → Phase → Prop
  | nil (phase : Phase) : Runs phase [] phase
  | cons {phase phase' phase'' : Phase} {event : Event} {events : List Event}
      (move : Moves dialer plan timeout phase event phase') (rest : Runs phase' events phase'') :
      Runs phase (event :: events) phase''

/-- What a resolution comes to in a phase in which it cannot go on. -/
inductive Ends : Phase → Except Error Stream → Prop
  | dialFailed {e : Error} (dial : dialer plan.route plan.target timeout = .error e) :
      Ends .dialed (.error e)
  | late {peer : Peer} (dial : dialer plan.route plan.target timeout = .ok peer)
      (time : timeout.isZero = true) : Ends .dialed (.error (.handshakeTimeout timeout))
  | silent (dial : dialer plan.route plan.target timeout = .ok .silent)
      (time : timeout.isZero = false) : Ends .dialed (.error (.handshakeTimeout timeout))
  | noServer {reason : String} (dial : dialer plan.route plan.target timeout = .ok (.broken reason))
      (time : timeout.isZero = false) : Ends .dialed (.error (.handshake reason))
  | untrusted :
      Ends .refused (.error (.untrustedHost (hostIdentity plan.target.host plan.target.port)))
  | exchange {server : Server} {history : List Offer} {reason : String}
      (exchange : server.exchange = .error reason) :
      Ends (.trusted server history) (.error (.handshake reason))
  | disagreement {server : Server} {before after : List AuthMethod} {m : AuthMethod}
      {history : List Offer} {reason : String} (exchange : server.exchange = .ok ())
      (methods : plan.auth = before ++ m :: after)
      (ready : AuthMethod.AllReady server plan.user before)
      (place : history = AuthMethod.allOffers plan.user before) (needs : m.needsAgreement = true)
      (agreement : server.agreement history = .error reason) :
      Ends (.trusted server history) (.error (.handshake reason))
  | agentHangs {server : Server} {before after : List AuthMethod} {history : List Offer}
      (exchange : server.exchange = .ok ())
      (methods : plan.auth = before ++ .agent .hangs :: after)
      (ready : AuthMethod.AllReady server plan.user before)
      (place : history = AuthMethod.allOffers plan.user before) :
      Ends (.trusted server history) (.error (.handshakeTimeout timeout))
  | exhausted {server : Server} {history : List Offer} (exchange : server.exchange = .ok ())
      (ready : AuthMethod.AllReady server plan.user plan.auth)
      (place : history = AuthMethod.allOffers plan.user plan.auth) :
      Ends (.trusted server history) (.error (.authenticationRejected plan.user))
  | broken {reason : String} : Ends (.broken reason) (.error (.handshake reason))
  | unanswered : Ends .unanswered (.error (.handshakeTimeout timeout))
  | stream :
      Ends .streaming (.ok ⟨plan.target.host, plan.user, plan.route, plan.remoteSocket⟩)
  | ended {reason : String} :
      Ends (.ended reason) (.error (.remoteSocketUnreachable plan.remoteSocket reason))

end Protocol

section Runs

variable {dialer : Dialer} {plan : Plan} {timeout : Duration}

theorem Runs.single {phase phase' : Phase} {event : Event}
    (move : Moves dialer plan timeout phase event phase') :
    Runs dialer plan timeout phase [event] phase' :=
  .cons move (.nil phase')

theorem Runs.append {phase phase' phase'' : Phase} {events events' : List Event}
    (first : Runs dialer plan timeout phase events phase')
    (second : Runs dialer plan timeout phase' events' phase'') :
    Runs dialer plan timeout phase (events ++ events') phase'' := by
  induction first with
  | nil => exact second
  | cons move _ ih => exact .cons move (ih second)

end Runs

end SshTunnel
