import EventLedger.Fault
import EventLedger.Text.Blank
import EventLedger.Text.Lowercase

/-!
# Configuration

Three settings, read from the environment: the path of the log, and the policies for unhandled
commands and for closed accounts. A policy may be written in any case and with blanks around it.
-/

namespace EventLedger

/-- The environment: the values of variables. -/
abbrev Environment := List (String × String)

/-- The value of a variable. -/
def Environment.get? (env : Environment) (key : String) : Option String :=
  env.lookup key

/-- The value of a variable, unless it is empty. -/
def Environment.nonempty? (env : Environment) (key : String) : Option String :=
  (env.get? key).filter (!·.isEmpty)

/-- The settings. -/
structure Config where
  logPath : String := "/tmp/evsource/events.log"
  unhandledPolicy : String := "log"
  closedPolicy : String := "unhandled"
deriving DecidableEq

namespace Config

def unhandledPolicies : List String := ["log", "raise"]
def closedPolicies : List String := ["unhandled", "reject"]

/-- The settings, if both policies are known. -/
def check (c : Config) : Except Fault Config :=
  if !unhandledPolicies.contains c.unhandledPolicy then
    .error (.invalid (.unknownUnhandledPolicy c.unhandledPolicy))
  else if !closedPolicies.contains c.closedPolicy then
    .error (.invalid (.unknownClosedPolicy c.closedPolicy))
  else .ok c

/-- A setting with a fixed set of choices. -/
def choice (env : Environment) (key default : String) (choices : List String) :
    Except Fault String :=
  match env.nonempty? key with
  | none => .ok default
  | some value =>
    let value := String.ofList (Text.lower (Text.strip value.toList))
    if choices.contains value then .ok value else .error (.invalid (.setting key choices value))

/-- The settings in the environment. -/
def ofEnvironment (env : Environment) : Except Fault Config := do
  let standard : Config := {}
  let logPath := (env.nonempty? "EVSOURCE_LOG_PATH").getD standard.logPath
  let unhandledPolicy ←
    choice env "EVSOURCE_UNHANDLED_POLICY" standard.unhandledPolicy unhandledPolicies
  let closedPolicy ← choice env "EVSOURCE_CLOSED_POLICY" standard.closedPolicy closedPolicies
  check ⟨logPath, unhandledPolicy, closedPolicy⟩

end Config

end EventLedger
