import SshTunnel.Text.Numeral

/-!
# Targets

A target is a host with the port to reach it at. `Target.text` puts hosts with colons in brackets.
-/

namespace SshTunnel

structure Target where
  host : String
  port : UInt16
  deriving DecidableEq, Repr

def hostPortText (host : String) (port : UInt16) : String :=
  let port := Text.decimal port.toNat
  if host.toList.contains ':' then "[" ++ host ++ "]:" ++ port else host ++ ":" ++ port

def Target.text (t : Target) : String :=
  hostPortText t.host t.port

end SshTunnel
