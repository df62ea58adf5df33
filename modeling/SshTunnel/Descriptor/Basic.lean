import SshTunnel.Error
import SshTunnel.Text.Numeral

/-!
# Connection descriptors

A descriptor names the remote host and the parameters of a resolution. Parameters keep the first
value they are given. `describe` shows a descriptor without its password.
-/

namespace SshTunnel

/-- What to connect to, and how. -/
structure Descriptor where
  host : String := ""
  /-- The port as it was written. -/
  port : Option String := none
  user : Option String := none
  password : Option String := none
  /-- Names with their values, each name once. -/
  params : List (String × String) := []
  deriving DecidableEq, Repr, Inhabited

namespace Descriptor

def defaultPort : UInt16 := 22

def value? (d : Descriptor) (name : String) : Option String :=
  d.params.lookup name

/-- Whether a parameter is present, even with an empty value. -/
def has (d : Descriptor) (name : String) : Bool :=
  (d.value? name).isSome

/-- The value of a parameter that is present and not empty. -/
def get? (d : Descriptor) (name : String) : Option String :=
  (d.value? name).filter (· ≠ "")

/-- Adds a parameter; a value that the name already has is kept. -/
def withParam (d : Descriptor) (name value : String) : Descriptor :=
  if d.has name then d else { d with params := d.params ++ [(name, value)] }

def username? (d : Descriptor) : Option String :=
  d.user.filter (· ≠ "")

/-- The port to connect to. No port and an empty port mean the default; zero is not a port. -/
def sshPort (d : Descriptor) : Except Error UInt16 :=
  match d.port.filter (· ≠ "") with
  | none => .ok defaultPort
  | some text =>
      match (Text.word16? text.toList).filter (· ≠ 0) with
      | some port => .ok port
      | none => .error (.descriptorInvalid s!"invalid port: {text}")

def sortedParams (d : Descriptor) : List (String × String) :=
  d.params.mergeSort fun a b => decide (a.1 ≤ b.1)

def redacted : String := "<redacted>"

def describe (d : Descriptor) : String :=
  let params := d.params.map fun (name, value) => Text.quoted name ++ ": " ++ Text.quoted value
  "ConnectionDescriptor \x7b host: " ++ Text.quoted d.host ++
    ", port: " ++ Text.quotedOption d.port ++
    ", user: " ++ Text.quotedOption d.user ++
    ", password: " ++ Text.quotedOption (d.password.map fun _ => redacted) ++
    ", params: \x7b" ++ ", ".intercalate params ++ "\x7d \x7d"

theorem value?_withParam (d : Descriptor) (name value other : String) :
    (d.withParam name value).value? other =
      (d.value? other).or (if other = name then some value else none) := by
  by_cases h : d.has name
  · rw [withParam, if_pos h]
    by_cases hn : other = name
    · obtain ⟨v, hv⟩ := Option.isSome_iff_exists.1 h
      simp [hn, hv]
    · simp [hn]
  · rw [withParam, if_neg h]
    by_cases hn : other = name
    · simp_all [value?, has, List.lookup_append]
    · have hb : (other == name) = false := by simpa using hn
      simp [value?, hn, List.lookup_append, hb]

end Descriptor

end SshTunnel
