import AssetWatch.Text.Blank

/-!
# Build environments

The environment names the command that a build runs. It is chosen on the command line or by
a variable; a blank choice counts as none.
-/

namespace AssetWatch

structure Environment where
  name : String
  deriving DecidableEq, Inhabited

namespace Environment

/-- The variable that chooses an environment, and tells a bundler which one was chosen. -/
def variableName : String := "BUNDLE_WATCH_ENV"

def default : Environment := ⟨"development"⟩

/-- The choice without white space around it, or the default if nothing is left. -/
def select (choice? : Option String) : Environment :=
  match choice? with
  | none => default
  | some choice => if Text.isBlank choice then default else ⟨Text.trim choice⟩

end Environment

end AssetWatch
