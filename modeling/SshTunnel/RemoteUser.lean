import SshTunnel.ClientConfig
import SshTunnel.Descriptor.Basic
import SshTunnel.Environment.Template
import SshTunnel.FileSystem.Path
import SshTunnel.Notice

/-!
# The remote user

The user to log in as is the one that the descriptor names, or else the one that the client
configuration gives for the host, or else the account that runs the program.
-/

namespace SshTunnel.RemoteUser

def defaultConfigPath : String := "$\x7bHOME\x7d/.ssh/config"

def unreadableNotice (path : String) (cause : OsError) : Notice :=
  ⟨.sshConfigUnreadable, s!"failed to read ssh config {path}: {cause.message}"⟩

def skippedNotice (path line : String) : Notice :=
  ⟨.sshConfigSkipped, s!"{path}: not evaluated: {line}"⟩

def fromConfig (d : Descriptor) (env : Environment) (fs : FileSystem) :
    Option String × List Notice :=
  let path := Template.expand env ((d.get? "ssh_config").getD defaultConfigPath)
  match fs.readText path with
  | .error cause => (none, [unreadableNotice path cause])
  | .ok text =>
      let config := ClientConfig.ofText text
      ((config.get? d.host "User").filter (· ≠ ""), config.skipped.map (skippedNotice path))

def noUser : String :=
  "no user in descriptor or ssh config, and the OS account name is unavailable"

/-- The user to log in as, and the notices that looking for one gives rise to. -/
def resolve (d : Descriptor) (env : Environment) (fs : FileSystem) :
    Except Error String × List Notice :=
  match d.username? with
  | some user => (.ok user, [])
  | none =>
      let (user?, notices) := fromConfig d env fs
      match user?.or env.account with
      | some user => (.ok user, notices)
      | none => (.error (.usernameResolutionFailed noUser), notices)

end SshTunnel.RemoteUser
