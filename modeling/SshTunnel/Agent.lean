import SshTunnel.Key.Public

/-!
# Key agents

An agent keeps private keys and signs with them on request. Whoever asks sees the public halves of
the keys, in the order in which the agent lists them.
-/

namespace SshTunnel

structure Identity where
  key : PublicKey
  comment : String
  /-- Whether the agent signs with the key when asked to. -/
  signs : Bool := true
  deriving DecidableEq, Repr

/-- How an agent answers whoever asks for its keys. -/
inductive Agent where
  | lists (identities : List Identity)
  /-- It refuses, or closes the connection. -/
  | refuses
  /-- It never answers. -/
  | hangs
  deriving DecidableEq, Repr

end SshTunnel
