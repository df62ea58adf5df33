import SshTunnel.Text.Split

/-!
# Environments

An environment gives values to variables and may know the name of the account that runs the
program. A variable with an empty value counts as unset.
-/

namespace SshTunnel

/-- The variables and the account that a resolution sees. -/
structure Environment where
  /-- The variables; of two values for one name the first counts. -/
  vars : List (String × String) := []
  account : Option String := none
  deriving DecidableEq, Repr, Inhabited

namespace Environment

/-- The value of a variable that is set and not empty. -/
def var (env : Environment) (name : String) : Option String :=
  (env.vars.lookup name).filter (· ≠ "")

def home (env : Environment) : Option String :=
  env.var "HOME"

def cutsAtEquals (before : List Char) : List Char → List (String × String)
  | [] => []
  | c :: s =>
      let later := cutsAtEquals (before ++ [c]) s
      if c = '=' then (String.ofList before, String.ofList s) :: later else later

/-- The environment of a process, given as `name=value` entries. An entry answers to every name
that ends at one of its equals signs, but not to the empty name. -/
def ofEntries (entries : List (String × String)) (account : Option String) : Environment where
  vars := (entries.flatMap fun (name, value) =>
    cutsAtEquals [] (name.toList ++ '=' :: value.toList)).filter (·.1 ≠ "")
  account := account

end Environment

end SshTunnel
