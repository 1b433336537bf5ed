import AddonUpkeep.Config.EnvFile
import AddonUpkeep.Fault.Basic

/-!
# The environment

The variables of the environment, completed by those of an environment file.  A variable that is
there already keeps its value.
-/

namespace AddonUpkeep

namespace Environment

/-- Add a variable. -/
def define (environment : Environment) (name value : String) : Except Fault Environment :=
  if name.toList.contains '\x00' || value.toList.contains '\x00' then .error (.value .nullByte)
  else if name.toList.contains '=' then .error (.value .environmentName)
  else .ok (environment.put name value)

/-- Add those variables that have a value and are not there yet. -/
def complete (environment : Environment) :
    Table String (Option String) → Except Fault Environment
  | [] => .ok environment
  | (name, value) :: rest =>
    match environment.get? name, value with
    | none, some value => do complete (← define environment name value) rest
    | _, _ => complete environment rest

/-- The environment completed by the text of an environment file, if there is one. -/
def withFile (environment : Environment) : Option String → Except Fault Environment
  | none => .ok environment
  | some text => complete environment (EnvFile.read environment text)

end Environment

end AddonUpkeep
