import AssetWatch.Cli.Help
import AssetWatch.Data.Indented
import AssetWatch.Session.Watching
import AssetWatch.Startup

/-!
# The commands of the program

`check` and `plan` only look at a project, `build` builds it once, and `watch` goes on until
it is told to stop. A command that fails names the kind of failure, and how much went wrong
if it is a count.
-/

namespace AssetWatch.Cli

/-- Why a command fails. -/
inductive Failure
  | config (error : LoadError)
  | startup (error : StartupError)
  | build (error : BuildError)
  | problems (count : Nat)
  | invocations (failed all : Nat)

/-- The kind of an error, in one word. -/
def loadErrorName : LoadError → String
  | .unreadable .. => "Io"
  | .malformed | .misfit _ => "Parse"
  | .invalid _ => "Validation"

def startupErrorName : StartupError → String
  | .root .. => "Root"
  | .config _ => "Config"
  | .environment _ => "Environment"
  | .setup _ => "Initialize"

def buildErrorName : BuildError → String
  | .discovery _ => "Discovery"
  | .environment _ => "Environment"
  | .watch .. => "Watch"

def Failure.summary : Failure → String
  | .config error => loadErrorName error
  | .startup error => startupErrorName error
  | .build error => buildErrorName error
  | .problems count => Text.quoted s!"{count} problem(s) found"
  | .invocations failed all => Text.quoted s!"{failed} of {all} invocations failed"

/-- What a command writes, and whether it fails. -/
structure Output where
  out : String := ""
  err : String := ""
  failure : Option Failure := none

namespace Output

def failed (failure : Failure) : Output := { failure := some failure }

def exitCode (o : Output) : Nat := if o.failure.isSome then 1 else 0

/-- Everything written to the error output. -/
def errorText (o : Output) : String :=
  match o.failure with
  | none => o.err
  | some failure => o.err ++ s!"Error: {failure.summary}\n"

end Output

/-! ## Commands that only look -/

/-- One category's line, or what is wrong with it. -/
def checkCategory (tree : Host.Tree) (cwd : Host.Place) (root : Path) (category : String)
    (folder : Path) : Except String String :=
  match Targets.discover tree cwd root category folder with
  | .ok found => .ok s!"{category}: {found.length} entrypoint(s) in {folder.text}\n"
  | .error e => .error s!"{category}: {e.message}\n"

def check (tree : Host.Tree) (cwd : Host.Place) (root config : Path) (env : Environment) : Output :=
  let configPath := root.join config
  match Config.load tree cwd configPath with
  | .error e => .failed (.config e)
  | .ok c =>
    let results := c.targets.entrypointFolders.toList.map fun (category, folder) =>
      checkCategory tree cwd root category folder
    let good := results.filterMap fun
      | .ok line => some line
      | .error _ => none
    let bad := results.filterMap fun
      | .ok _ => none
      | .error line => some line
    let bad := match c.strategy.commandFor env with
      | .ok _ => bad
      | .error e => bad ++ [e.message ++ "\n"]
    let environments := String.intercalate ", " c.strategy.commands.keys
    { out := s!"{configPath.text} is valid\nstrategy: {c.strategy.kind.name}\n" ++
        s!"environments: {environments}\n" ++ String.join good
      err := String.join bad
      failure := if bad.isEmpty then none else some (.problems bad.length) }

/-- The plan that a command line asks for: of the categories it names, or of all. -/
def planOf (tree : Host.Tree) (cwd : Host.Place) (root config : Path) (env : Environment)
    (categories : List String) : Except Failure Plan := do
  let c ← (Config.load tree cwd (root.join config)).mapError .config
  let categories := if categories.isEmpty then c.categories else categories
  (c.plan tree cwd root env categories).mapError .build

def plan (tree : Host.Tree) (cwd : Host.Place) (root config : Path) (env : Environment)
    (categories : List String) : Output :=
  match planOf tree cwd root config env categories with
  | .ok p => { out := p.encode.indented ++ "\n" }
  | .error failure => .failed failure

/-! ## Commands that run processes -/

variable {σ : Type}

/-- Builds the categories that are named, or all. -/
def buildOnce (s : Session) (x : Executor σ) (categories : List String) (l : Ledger σ) :
    Except BuildError Report × Ledger σ :=
  let reading := if categories.isEmpty then s.buildAll x l else s.build x categories l
  reading.under s.config

def outputOf : Except BuildError Report → Output
  | .error e => .failed (.build e)
  | .ok report =>
    let failed := report.failed.length
    if failed = 0 then {} else .failed (.invocations failed report.size)

def build (o : StartupOptions) (x : Executor σ) (categories : List String) (state : σ) :
    Output × σ :=
  let startup := o.bootstrap x state
  match startup.result with
  | .error e => (.failed (.startup e), startup.state)
  | .ok session =>
    let (result, l) := buildOnce session x categories { state := startup.state }
    (outputOf result, l.state)

/-- How a command goes on. -/
inductive Conclusion (σ : Type)
  | ended (output : Output) (state : σ)
  /-- watches until it is told to stop -/
  | watching (watching : Watching σ)

def watch (o : StartupOptions) (x : World σ) (skipInitialBuild : Bool) (state : σ) :
    Conclusion σ :=
  let executor := x.toExecutor
  let startup := o.bootstrap executor state
  match startup.result with
  | .error e => .ended (.failed (.startup e)) startup.state
  | .ok session =>
    let begun : Ledger σ := { state := startup.state }
    let (result, l) : Except BuildError Unit × Ledger σ :=
      if skipInitialBuild then (.ok (), begun)
      else
        let (result, l) := (session.buildAll executor begun).under session.config
        (result.map fun _ => (), l)
    match result with
    | .error e => .ended (.failed (.build e)) l.state
    | .ok _ =>
      match Watching.start session x l with
      | .error e => .ended (.failed (.build e)) l.state
      | .ok watching => .watching watching

/-- Runs the command that the arguments name. -/
def Arguments.run (a : Arguments) (x : World σ) (state : σ) : Conclusion σ :=
  let env := Environment.select a.environment
  let options : StartupOptions := { root := a.root, configPath := a.config, environment := env }
  let tree := x.tree state
  match a.command with
  | .watch skip => watch options x skip state
  | .build categories =>
    let (output, state) := build { options with serveMetrics := false } x.toExecutor categories state
    .ended output state
  | .check => .ended (check tree x.cwd a.root a.config env) state
  | .plan categories => .ended (plan tree x.cwd a.root a.config env categories) state

end AssetWatch.Cli
