import AssetWatch.Run.Ledger
import AssetWatch.Run.Runner
import AssetWatch.Session.Plan
import AssetWatch.Session.Reading

/-!
# Sessions

A session is one project in one environment, with the configuration in force. It plans
builds and runs them. A build that cannot be planned starts nothing and is not counted.
-/

namespace AssetWatch

open Host (Tree Place)

structure Session where
  config : Config
  configPath : Path
  root : Path
  environment : Environment

/-- What runs the processes of a build. -/
structure Executor (σ : Type) where
  machine : Machine σ
  /-- the files that a build finds -/
  tree : σ → Tree
  cwd : Place
  processors? : Option Nat := none
  /-- why the system refuses to watch a folder that is there, if it does -/
  watchFault? : Path → Option Host.Fault := fun _ => none
  /-- whether metrics can be served at an address -/
  canServe : String → Bool := fun _ => false

/-- A build that was planned, with the limits of its processes. -/
structure Build where
  plan : Plan
  limits : ExecutionLimits

namespace Session

variable {σ : Type}

/-- Puts another configuration in force. -/
def replaceConfig (s : Session) (config : Config) : Session := { s with config }

def plan (s : Session) (x : Executor σ) (state : σ) (categories : List String) :
    Reading (Except BuildError Plan) :=
  .read fun c => .done (c.plan (x.tree state) x.cwd s.root s.environment categories)

/-- Plans a build of some categories; its limits are looked up once it is planned. -/
def prepare (s : Session) (x : Executor σ) (state : σ) (categories : List String) :
    Reading (Except BuildError Build) :=
  (s.plan x state categories).bind fun
    | .error e => .done (.error e)
    | .ok plan => .read fun c => .done (.ok { plan, limits := c.execution })

def runner (s : Session) (x : Executor σ) (b : Build) : Runner :=
  { root := s.root, limits := b.limits, processors? := x.processors? }

/-- Runs a planned build. Each process is counted when it has its result, and the build when its
report is there. -/
def run (s : Session) (x : Executor σ) (b : Build) (l : Ledger σ) : Report × Ledger σ :=
  let (report, l) := (s.runner x b).execute x.machine.counting b.plan l
  (report, { l with metrics := l.metrics.recordBuild report.isSuccess })

/-- Plans a build of some categories and runs it. -/
def build (s : Session) (x : Executor σ) (categories : List String) (l : Ledger σ) :
    Reading (Except BuildError Report × Ledger σ) :=
  (s.prepare x l.state categories).map fun
    | .error e => (.error e, l)
    | .ok b =>
      let (report, l) := s.run x b l
      (.ok report, l)

/-- The plan of every category. -/
def planAll (s : Session) (x : Executor σ) (state : σ) : Reading (Except BuildError Plan) :=
  .read fun c => s.plan x state c.categories

/-- Builds every category. -/
def buildAll (s : Session) (x : Executor σ) (l : Ledger σ) :
    Reading (Except BuildError Report × Ledger σ) :=
  .read fun c => s.build x c.categories l

end Session

end AssetWatch
