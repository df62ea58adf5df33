import SshTunnel.CommandLine.Report

/-!
# Surroundings of a run

The variables and the files that a run with given arguments may look at. Everything else in its
surroundings leaves the run as it is.
-/

namespace SshTunnel

def Template.references (template : String) : List String :=
  (read template.toList).filterMap fun segment =>
    match segment with
    | .char _ => none
    | .reference name => some (String.ofList name)

def Descriptor.templates (d : Descriptor) : List String :=
  [(d.get? "keyfile").getD Auth.defaultKeyPath,
    (d.get? "knownhosts").getD TrustPolicy.defaultPath,
    (d.get? "ssh_config").getD RemoteUser.defaultConfigPath] ++ (d.get? "SSHControlPath").toList

namespace CommandLine.Invocation

def templates (i : Invocation) : List String :=
  match Descriptor.parse i.uri with
  | .ok d => d.templates
  | .error _ => []

def variableNames (i : Invocation) : List String :=
  ["HOME", "SSH_AUTH_SOCK", "HTTP_PROXY", "ALL_PROXY"] ++ i.templates.flatMap Template.references

def paths (i : Invocation) (env : Environment) : List String :=
  i.options.config.toList ++ (env.var "SSH_AUTH_SOCK").toList ++
    i.templates.map (Template.expand env)

end CommandLine.Invocation

end SshTunnel
