import SshTunnel.Mux.Session
import SshTunnel.Proxy.Negotiation
import SshTunnel.Route

/-!
# Connections to a target

A connection is what the way to a target leads to once it is set up: a plain stream, possibly after
a negotiation with a proxy, or a channel of a control connection. `Connection.setUp` sets one up
with a listener that keeps the connection open after all that it sends.
-/

namespace SshTunnel

inductive Connection where
  /-- All that has been sent, and what the target has sent. -/
  | plain (sent received : Bytes)
  | channel (session : Mux.Session)
  deriving DecidableEq, Repr

namespace Connection

/-- The connection that a negotiation with a proxy leads to; nothing, while the proxy's answer is
not complete. -/
def throughProxy (proxy : ProxyAddress) (target : Target) (octets : Bytes) :
    Except Error (Option Connection) :=
  let outcome := Proxy.negotiate proxy target octets
  match outcome.result with
  | .ok rest => .ok (some (.plain outcome.sent rest))
  | .error .endOfStream => .ok none
  | .error fault => .error (.proxyHandshakeFailed target.text fault.message)

/-- The connection that a channel of a control connection leads to; nothing, while it is not
open. -/
def throughControl (target : Target) (octets : Bytes) : Except Error (Option Connection) :=
  let session := ((Mux.Session.start target).apply (.arrive octets)).settle
  match session.client with
  | .opening _ => .ok none
  | .failed fault => .error (.controlChannelFailed fault.message)
  | .pumping _ | .ended _ => .ok (some (.channel session))

def setUp (route : Route) (target : Target) (octets : Bytes) :
    Except Error (Option Connection) :=
  match route with
  | .direct => .ok (some (.plain [] octets))
  | .proxy proxy => throughProxy proxy target octets
  | .control _ => throughControl target octets

def received : Connection → Bytes
  | plain _ received => received
  | channel session => session.delivered.reverse.flatten

def sent : Connection → Bytes
  | plain sent _ => sent
  | channel session => session.sent.reverse.flatMap fun m => Mux.frame m.encode

def send (octets : Bytes) : Connection → Connection
  | plain sent received => plain (sent ++ octets) received
  | channel session =>
      if session.takesWrites then channel (session.apply (.write octets)).settle
      else channel session

def finish : Connection → Connection
  | plain sent received => plain sent received
  | channel session => channel (session.apply .shutdown).settle

end Connection

end SshTunnel
