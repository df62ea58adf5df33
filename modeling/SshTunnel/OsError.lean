/-!
# Failures of the operating system

Why a file cannot be opened, read or connected to, and why a host cannot be reached.
-/

namespace SshTunnel

/-- Why the operating system, or the layer right above it, refuses a request. -/
inductive OsError where
  | notFound
  | noSuchDevice
  | notADirectory
  | isADirectory
  | invalidArgument
  | nameTooLong
  | tooManyLinks
  | connectionRefused
  | networkUnreachable
  /-- A null character in the path of a file. -/
  | nullInPath
  /-- A null character in the address of a socket. -/
  | nullInAddress
  | addressTooLong
  | abstractAddressTooLong
  /-- Octets that are no text. -/
  | notText
  | unknownHost
  | noAddress
  /-- Nothing happened for the given time. -/
  | noConnection (within : String)
  /-- A cause in other words. -/
  | other (cause : String)
  deriving DecidableEq, Repr

namespace OsError

def numbered (text : String) (number : Nat) : String :=
  s!"{text} (os error {number})"

def message : OsError → String
  | notFound => numbered "No such file or directory" 2
  | noSuchDevice => numbered "No such device or address" 6
  | notADirectory => numbered "Not a directory" 20
  | isADirectory => numbered "Is a directory" 21
  | invalidArgument => numbered "Invalid argument" 22
  | nameTooLong => numbered "File name too long" 36
  | tooManyLinks => numbered "Too many levels of symbolic links" 40
  | networkUnreachable => numbered "Network is unreachable" 101
  | connectionRefused => numbered "Connection refused" 111
  | nullInPath => "file name contained an unexpected NUL byte"
  | nullInAddress => "paths must not contain interior null bytes"
  | addressTooLong => "path must be shorter than SUN_LEN"
  | abstractAddressTooLong => "abstract socket name must be shorter than SUN_LEN"
  | notText => "stream did not contain valid UTF-8"
  | unknownHost => "failed to lookup address information: Name or service not known"
  | noAddress => "failed to lookup address information: Temporary failure in name resolution"
  | noConnection within => s!"no connection within {within}"
  | other cause => cause

end OsError

end SshTunnel
