import AssetWatch.Run.Child

/-!
# The setup command

A command for the shell that runs once in the project's root, before anything is built.
-/

namespace AssetWatch

inductive CommandError
  | spawn (command : String) (reason : String)
  /-- ended with a status that is not zero, or with none, by a signal -/
  | exit (command : String) (code : Option Int)

def CommandError.message : CommandError → String
  | .spawn command reason => s!"failed to start '{command}': {reason}"
  | .exit command (some code) => s!"'{command}' exited with status {code}"
  | .exit command none => s!"'{command}' exited with a signal"

/-- What is told of a command that has run. -/
def CommandError.ofChild (command : String) : Child → Except CommandError Unit
  | .refused failure | .lost failure => .error (.spawn command failure.reason)
  | .ended (.exited status) _ =>
    if status = 0 then .ok () else .error (.exit command (some status))
  | .ended (.killed _) _ | .stopped _ => .error (.exit command none)

/-- Runs a command in the shell and waits for it. -/
def runSetup {σ : Type} (m : Machine σ) (command : String) (root : Path) (state : σ) :
    Except CommandError Unit × σ :=
  let launch : Launch :=
    { program := ⟨"sh"⟩, args := ["-c", command], directory := root, environment := none }
  match m.start launch none state with
  | (.error failure, state) => (CommandError.ofChild command (.refused failure), state)
  | (.ok process, state) =>
    let ((_, child), state) := m.next [{ launch, process }] state
    (CommandError.ofChild command child, state)

end AssetWatch
