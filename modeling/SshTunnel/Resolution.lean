import SshTunnel.Plan

/-!
# Resolutions

A resolution carries out a plan: it dials, checks the key that the host presents, authenticates,
and opens the remote socket. `resolve` also plans first, and dials only if there is a plan. What
happens on the way is recorded as events, in their order.
-/

namespace SshTunnel

/-- What a client offers to prove who it is. -/
inductive Credential where
  | password (text : String)
  | key (key : PublicKey)
  deriving DecidableEq, Repr

structure Offer where
  user : String
  credential : Credential
  deriving DecidableEq, Repr

inductive Answer where
  | accepted
  | rejected
  /-- The connection breaks. -/
  | broken (reason : String)
  /-- No answer is given. -/
  | none
  deriving DecidableEq, Repr

/-- How a server behaves. -/
structure Server where
  hostKey : PublicKey
  /-- Whether the exchange of keys ends well once the host key is accepted, or what goes wrong. -/
  exchange : Except String Unit := .ok ()
  /-- Whether it says, after some offers, how keys are to sign, or what goes wrong. -/
  agreement : List Offer → Except String Unit := fun _ => .ok ()
  /-- The answer to an offer, given the offers that came before it. -/
  answer : List Offer → Offer → Answer
  /-- Whether a path can be opened, or for what reason it cannot. -/
  opens : String → Except String Unit

/-- What is found at the other end of a connection. -/
inductive Peer where
  | server (server : Server)
  /-- It never says anything. -/
  | silent
  /-- It is no server, or closes the connection before the keys are exchanged. -/
  | broken (reason : String)

/-- How connections are made: by a route, to a target, within a time. -/
abbrev Dialer := Route → Target → Duration → Except Error Peer

/-- What happens during a resolution. -/
inductive Event where
  | dialed (route : Route) (target : Target) (timeout : Duration)
  /-- The key that a host presents at a port is judged. -/
  | judged (host : String) (port : UInt16) (key : PublicKey) (accepted : Bool)
  | offered (offer : Offer) (accepted : Bool)
  | opened (path : String) (success : Bool)
  | disconnected
  deriving DecidableEq, Repr

structure Stream where
  host : String
  user : String
  route : Route
  remoteSocket : String
  deriving DecidableEq, Repr

def Stream.describe (s : Stream) : String :=
  "ResolvedStream \x7b session: Session \x7b host: " ++ Text.quoted s.host ++
    ", user: " ++ Text.quoted s.user ++
    ", handle: \"<russh::Handle>\" \x7d, path: " ++ s.route.describe ++
    ", remote_socket: " ++ Text.quoted s.remoteSocket ++ " \x7d"

structure Run (α : Type) where
  events : List Event
  result : Except Error α

/-- How far authentication has come. -/
inductive Login where
  | accepted
  | rejected
  | failed (reason : String)
  /-- Nobody answers. -/
  | hanging
  deriving DecidableEq, Repr

def Server.tell (server : Server) (history : List Offer) (offer : Offer) : Event × Answer :=
  let answer := server.answer history offer
  (.offered offer (answer = .accepted), answer)

/-- Offers the identities of an agent until one is accepted. Each may fail in its turn: the agent
does not sign, and nothing is offered, or the connection breaks. It is passed over then. -/
def offerIdentities (server : Server) (user : String) (history : List Offer) :
    List Identity → List Event × Login
  | [] => ([], .rejected)
  | identity :: identities =>
      let offer : Offer := ⟨user, .key identity.key⟩
      if identity.signs then
        let (event, answer) := server.tell history offer
        match answer with
        | .accepted => ([event], .accepted)
        | .none => ([event], .hanging)
        | .rejected | .broken _ =>
            let (events, login) := offerIdentities server user (history ++ [offer]) identities
            (event :: events, login)
      else offerIdentities server user history identities

def offerOnce (server : Server) (history : List Offer) (offer : Offer) : List Event × Login :=
  let (event, answer) := server.tell history offer
  match answer with
  | .accepted => ([event], .accepted)
  | .rejected => ([event], .rejected)
  | .broken reason => ([event], .failed reason)
  | .none => ([event], .hanging)

/-- Goes on with a step for which the server has to say how keys are to sign. -/
def Server.agreeing (server : Server) (history : List Offer) (step : List Event × Login) :
    List Event × Login :=
  match server.agreement history with
  | .ok _ => step
  | .error reason => ([], .failed reason)

def offerAgent (server : Server) (user : String) (history : List Offer) :
    Agent → List Event × Login
  | .lists [] | .refuses => ([], .rejected)
  | .lists identities =>
      server.agreeing history (offerIdentities server user history identities)
  | .hangs => ([], .hanging)

def offerMethod (server : Server) (user : String) (history : List Offer) :
    AuthMethod → List Event × Login
  | .password text => offerOnce server history ⟨user, .password text⟩
  | .privateKey _ key => server.agreeing history (offerOnce server history ⟨user, .key key⟩)
  | .agent agent => offerAgent server user history agent

def offersOf (events : List Event) : List Offer :=
  events.filterMap fun e =>
    match e with
    | .offered offer _ => some offer
    | _ => none

def authenticate (server : Server) (user : String) (history : List Offer) :
    List AuthMethod → List Event × Login
  | [] => ([], .rejected)
  | method :: methods =>
      let (events, login) := offerMethod server user history method
      match login with
      | .rejected =>
          let (more, login) := authenticate server user (history ++ offersOf events) methods
          (events ++ more, login)
      | _ => (events, login)

def Login.result (user : String) (timeout : Duration) : Login → Except Error Unit
  | accepted => .ok ()
  | rejected => .error (.authenticationRejected user)
  | failed reason => .error (.handshake reason)
  | hanging => .error (.handshakeTimeout timeout)

/-- Ends the exchange of keys with a server whose key is accepted, and authenticates, within a
time. -/
def establish (server : Server) (plan : Plan) (timeout : Duration) : Run Unit :=
  match server.exchange with
  | .error reason => ⟨[], .error (.handshake reason)⟩
  | .ok _ =>
      let (events, login) := authenticate server plan.user [] plan.auth
      ⟨events, login.result plan.user timeout⟩

/-- Brings up a session with what is found at the other end, within a time. -/
def handshake (peer : Peer) (plan : Plan) (timeout : Duration) : Run Server :=
  if timeout.isZero then ⟨[], .error (.handshakeTimeout timeout)⟩
  else
    match peer with
    | .silent => ⟨[], .error (.handshakeTimeout timeout)⟩
    | .broken reason => ⟨[], .error (.handshake reason)⟩
    | .server server =>
        let host := plan.target.host
        let port := plan.target.port
        let accepted := plan.trust.accepts host port server.hostKey
        let judged := Event.judged host port server.hostKey accepted
        if accepted then
          let run := establish server plan timeout
          ⟨judged :: run.events, run.result.map fun _ => server⟩
        else ⟨[judged], .error (.untrustedHost (hostIdentity host port))⟩

def openSocket (server : Server) (plan : Plan) : Run Stream :=
  match server.opens plan.remoteSocket with
  | .ok _ =>
      ⟨[.opened plan.remoteSocket true],
        .ok ⟨plan.target.host, plan.user, plan.route, plan.remoteSocket⟩⟩
  | .error reason =>
      ⟨[.opened plan.remoteSocket false, .disconnected],
        .error (.remoteSocketUnreachable plan.remoteSocket reason)⟩

/-- Carries out a plan. Dialing and the handshake may each take so long. -/
def execute (dialer : Dialer) (plan : Plan) (timeout : Duration) : Run Stream :=
  let dialed := Event.dialed plan.route plan.target timeout
  match dialer plan.route plan.target timeout with
  | .error e => ⟨[dialed], .error e⟩
  | .ok peer =>
      let session := handshake peer plan timeout
      match session.result with
      | .error e => ⟨dialed :: session.events, .error e⟩
      | .ok server =>
          let stream := openSocket server plan
          ⟨dialed :: session.events ++ stream.events, stream.result⟩

def resolve (settings : Settings) (d : Descriptor) (env : Environment) (fs : FileSystem)
    (dialer : Dialer) : Run Stream :=
  match Plan.make settings d env fs with
  | .error e => ⟨[], .error e⟩
  | .ok plan => execute dialer plan settings.dialTimeout

end SshTunnel
