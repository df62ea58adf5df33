/-!
# Notices

A notice tells of something that a resolution worked around. Notices never end a resolution; they
are kept in the order in which they were made.
-/

namespace SshTunnel

/-- How much a notice matters. -/
inductive Severity where
  | debug | warn | error
  deriving DecidableEq, Repr

def Severity.name : Severity → String
  | .debug => "DEBUG"
  | .warn => "WARN"
  | .error => "ERROR"

inductive NoticeKind where
  | agentNotConfigured | agentUnavailable | keyUnreadable | keyUnparseable | passwordMissing
  | unknownAuthMethod | sshConfigUnreadable | sshConfigSkipped | insecureHostKeys
  deriving DecidableEq, Repr

namespace NoticeKind

def all : List NoticeKind :=
  [agentNotConfigured, agentUnavailable, keyUnreadable, keyUnparseable, passwordMissing,
    unknownAuthMethod, sshConfigUnreadable, sshConfigSkipped, insecureHostKeys]

def name : NoticeKind → String
  | agentNotConfigured => "agent_not_configured"
  | agentUnavailable => "agent_unavailable"
  | keyUnreadable => "key_unreadable"
  | keyUnparseable => "key_unparseable"
  | passwordMissing => "password_missing"
  | unknownAuthMethod => "unknown_auth_method"
  | sshConfigUnreadable => "ssh_config_unreadable"
  | sshConfigSkipped => "ssh_config_skipped"
  | insecureHostKeys => "insecure_host_keys"

def ofName? (name : String) : Option NoticeKind :=
  all.find? (·.name = name)

/-- Mistakes of the user weigh most, and what is missing by default least. -/
def severity : NoticeKind → Severity
  | agentNotConfigured | sshConfigUnreadable | sshConfigSkipped => .debug
  | agentUnavailable | keyUnreadable | unknownAuthMethod | insecureHostKeys => .warn
  | keyUnparseable | passwordMissing => .error

theorem mem_all (k : NoticeKind) : k ∈ all := by
  cases k <;> decide

theorem ofName?_name (k : NoticeKind) : ofName? k.name = some k := by
  cases k <;> decide

end NoticeKind

/-- Something that a resolution worked around. -/
structure Notice where
  kind : NoticeKind
  message : String
  deriving DecidableEq, Repr

def presentKinds (notices : List Notice) : List NoticeKind :=
  NoticeKind.all.filter fun k => notices.any (·.kind = k)

theorem mem_presentKinds {notices : List Notice} {k : NoticeKind} :
    k ∈ presentKinds notices ↔ ∃ n ∈ notices, n.kind = k := by
  simp [presentKinds, NoticeKind.mem_all]

end SshTunnel
