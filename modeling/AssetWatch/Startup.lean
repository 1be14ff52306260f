import AssetWatch.Config.Load
import AssetWatch.Run.Setup
import AssetWatch.Session.Build

/-!
# Startup

A project is brought to the point where builds can run: its root is found, its configuration
is loaded, the environment must have a command, and only then does the setup command run.
The first of these that fails decides the error. Whether metrics can be served where the
configuration asks for it is only noted.
-/

namespace AssetWatch

inductive StartupError
  | root (path : Path) (fault : Host.Fault)
  | config (error : LoadError)
  | environment (error : UnknownEnvironment)
  | setup (error : CommandError)

def StartupError.message : StartupError → String
  | .root path fault => s!"project root {path.quoted} is not accessible: {fault.message}"
  | .config error => error.message
  | .environment error => error.message
  | .setup error => s!"initialize failed: {error.message}"

structure StartupOptions where
  root : Path
  /-- seen from the root -/
  configPath : Path
  environment : Environment
  withSetup : Bool := true
  serveMetrics : Bool := true

/-- What came of serving metrics. -/
inductive MetricsNotice
  | notAsked
  | served (address : String)
  | refused (address : String)
  deriving DecidableEq

/-- How far a project was brought. -/
structure Startup (σ : Type) where
  result : Except StartupError Session
  metrics : MetricsNotice
  state : σ

namespace StartupOptions

/-- The project as its files describe it. -/
def load (o : StartupOptions) (tree : Host.Tree) (cwd : Host.Place) :
    Except StartupError Session := do
  let root ← (tree.canonical cwd o.root).mapError (.root o.root)
  let configPath := root.join o.configPath
  let config ← (Config.load tree cwd configPath).mapError .config
  return { config, configPath, root, environment := o.environment }

/-- Serves metrics where the configuration asks for it, if that is possible. -/
def serve (o : StartupOptions) (canServe : String → Bool) (c : Config) : MetricsNotice :=
  match o.serveMetrics, c.observability.metricsAddress with
  | true, some address => if canServe address then .served address else .refused address
  | _, _ => .notAsked

/-- The command to run first, if there is one and it is wanted. -/
def setupOf (o : StartupOptions) (s : Session) : Option String :=
  if o.withSetup then s.config.setup else none

/-- Runs the setup command, once the environment is known to have a command. -/
def prepare {σ : Type} (o : StartupOptions) (x : Executor σ) (s : Session) (state : σ) :
    Except StartupError Session × σ :=
  match s.config.strategy.commandFor o.environment with
  | .error e => (.error (.environment e), state)
  | .ok _ =>
    match o.setupOf s with
    | none => (.ok s, state)
    | some command =>
      let (result, state) := runSetup x.machine command s.root state
      ((result.mapError .setup).map fun _ => s, state)

/-- Brings a project up. -/
def bootstrap {σ : Type} (o : StartupOptions) (x : Executor σ) (state : σ) : Startup σ :=
  match o.load (x.tree state) x.cwd with
  | .error e => { result := .error e, metrics := .notAsked, state }
  | .ok session =>
    let (result, state) := o.prepare x session state
    { result, metrics := o.serve x.canServe session.config, state }

end StartupOptions

end AssetWatch
