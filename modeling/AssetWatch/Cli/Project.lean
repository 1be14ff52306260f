import AssetWatch.Cli.Run
import AssetWatch.Host.Machine
import AssetWatch.Utility.Table

/-!
# Running the program on a machine

A project is described by the files it has on a machine where nothing is installed but the
usual utilities, and by variables. The program runs in its folder, with what it and its
processes write collected.
-/

namespace AssetWatch

open Host (Place Tree Action)

/-- The machine that runs the usual utilities. -/
def Host.standardSetting : Host.Setting := { programs := Utility.programs }

/-- The world of a machine, seen from a folder. -/
def Host.world (setting : Host.Setting) (cwd : Place) : World Host.State :=
  { machine := setting.machine
    tree := Host.State.tree
    cwd
    watchFault? := fun folder =>
      if folder.sameAs Host.writeOnlySetting.toPath then some .accessDenied else none
    now := Host.State.now
    setTree := fun tree state => { state with tree }
    takeIncidents := fun state =>
      let (incidents, tree) := state.tree.takeJournal
      (incidents, { state with tree })
    proceed := setting.proceedTo
    ended? := Host.Setting.takeEnded? }

/-- A machine with files in one folder, which is made. -/
def Host.withFiles (folder : Place) (actions : List Action) : Tree :=
  let bare := Host.bareTree Utility.installed
  let made := (bare.makeDirectories [] folder.toPath).toOption.getD bare
  actions.foldl (Action.apply folder) made

namespace Cli

structure Project where
  tree : Tree
  cwd : Place
  bindings : List (String × String) := []

/-- What a run of the program leaves behind. -/
structure Transcript where
  exit : Nat
  out : String
  err : String
  tree : Tree

namespace Project

/-- What was written to a stream of the machine. -/
def streamText (s : Host.State) (number : Nat) : String :=
  Octets.text (Octets.ofBytes (s.stream number))

/-- The machine before anything was written. -/
def firstState (tree : Tree) : Host.State :=
  { tree, streams := #[ByteArray.empty, ByteArray.empty] }

/-- Runs the program with the given arguments. A program that watches is stopped at once. -/
def run (p : Project) (args : List String) : Transcript :=
  let chosen? := p.bindings.lookup Environment.variableName
  match Arguments.parse chosen? args with
  | .error (.help topic) => { exit := 0, out := helpText chosen? topic, err := "", tree := p.tree }
  | .error .version => { exit := 0, out := versionText, err := "", tree := p.tree }
  | .error .usage =>
    { exit := 2, out := "", err := "error: the arguments are not understood\n", tree := p.tree }
  | .ok arguments =>
    let setting := { Host.standardSetting with bindings := p.bindings, collects := true }
    let world := Host.world setting p.cwd
    match arguments.run world (firstState p.tree) with
    | .ended output state =>
      let state := (state.say 0 output.out).say 1 output.errorText
      let state := setting.drain state
      { exit := output.exitCode
        out := streamText state 0
        err := streamText state 1
        tree := state.tree }
    | .watching w =>
      let state := w.ledger.state
      { exit := 0, out := streamText state 0, err := streamText state 1, tree := state.tree }

/-! ## Described projects -/

def folder : Place := ["project"]

structure Description where
  files : List Action := []
  bindings : NameMap String := .empty

def descriptionFields : List (Schema.FieldReader Description) := [
  Schema.field "files" (Schema.list Action.decode) fun d files => { d with files },
  Schema.field "variables" (NameMap.decode Schema.text) fun d bindings => { d with bindings }]

/-- The project that a document describes by its `files` and `variables`. -/
def ofDocument (text : String) : Option Project := do
  let document ← Toml.parse text
  let d ← (Schema.record "Description" descriptionFields {} document).toOption
  return {
    tree := Host.withFiles folder d.files
    cwd := folder
    bindings := d.bindings.toList }

end Project

end Cli

end AssetWatch
