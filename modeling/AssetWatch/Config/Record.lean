import AssetWatch.Environment
import AssetWatch.Path

/-!
# The configuration record

What a project's configuration says: where the entrypoints of each asset category are, which
folders are watched for it, which command bundles them in which environment, and how. Every
section but the targets and the strategy has defaults.
-/

namespace AssetWatch

/-- How entrypoints are shared out among processes. -/
inductive StrategyKind
  /-- one process for each entrypoint, side by side -/
  | parallelCompilation
  /-- one process for each entrypoint, one after the other, with templated arguments -/
  | singleExecution
  /-- one process for all entrypoints -/
  | singleBatchedExecution
  deriving DecidableEq, Inhabited, Repr

def StrategyKind.all : List StrategyKind :=
  [.parallelCompilation, .singleExecution, .singleBatchedExecution]

def StrategyKind.name : StrategyKind → String
  | .parallelCompilation => "ParallelCompilation"
  | .singleExecution => "SingleExecution"
  | .singleBatchedExecution => "SingleBatchedExecution"

/-- What an argument may be filled in with. -/
inductive ArgVariable
  | entrypoint
  | entrypointName
  | entrypointStem
  | category
  | entrypointsFolder
  | environment
  deriving DecidableEq

def ArgVariable.all : List ArgVariable :=
  [.entrypoint, .entrypointName, .entrypointStem, .category, .entrypointsFolder, .environment]

def ArgVariable.name : ArgVariable → String
  | .entrypoint => "entrypoint"
  | .entrypointName => "entrypoint_name"
  | .entrypointStem => "entrypoint_stem"
  | .category => "category"
  | .entrypointsFolder => "entrypoints_folder"
  | .environment => "environment"

/-- One argument of a template. -/
inductive ArgToken
  | text (text : String)
  | var (name : ArgVariable)
  deriving DecidableEq

structure Targets where
  /-- the folder of each category's entrypoints -/
  entrypointFolders : NameMap Path := .empty
  /-- the folders watched for each category -/
  watch : NameMap (List Path) := .empty

structure StrategySettings where
  kind : StrategyKind
  /-- the arguments of each process; only `singleExecution` reads them -/
  argsEach : Option (List ArgToken) := none
  /-- the command of each environment -/
  commands : NameMap String := .empty

inductive LogFormat
  | pretty
  | json
  deriving DecidableEq

def LogFormat.all : List LogFormat := [.pretty, .json]

def LogFormat.name : LogFormat → String
  | .pretty => "pretty"
  | .json => "json"

structure Observability where
  logLevel : String := "info"
  logFormat : LogFormat := .pretty
  metricsAddress : Option String := none
  deriving DecidableEq

structure WatcherSettings where
  /-- how long nothing may happen before a burst of changes is over -/
  debounceMs : UInt64 := 200
  pollIntervalMs : UInt64 := 2000
  /-- whether an edit of the configuration is taken up while watching -/
  watchConfig : Bool := true
  deriving DecidableEq

structure ExecutionLimits where
  /-- how many processes run side by side; 0 stands for the number of processors -/
  maxParallel : UInt64 := 0
  /-- after how many seconds a process is stopped; 0 stands for never -/
  timeoutSecs : UInt64 := 0
  /-- whether a sequence of processes ends with the first that fails -/
  failFast : Bool := false
  deriving DecidableEq

structure Config where
  /-- a shell command that runs once, before the first build -/
  setup : Option String := none
  targets : Targets
  strategy : StrategySettings
  observability : Observability := {}
  watcher : WatcherSettings := {}
  execution : ExecutionLimits := {}

/-- An environment without a command, and the environments that have one. -/
structure UnknownEnvironment where
  requested : String
  known : List String
  deriving DecidableEq

def UnknownEnvironment.message (e : UnknownEnvironment) : String :=
  s!"no command configured for environment '{e.requested}' (known: " ++
    String.intercalate ", " e.known ++ ")"

namespace StrategySettings

/-- The command of an environment. -/
def commandFor (s : StrategySettings) (env : Environment) : Except UnknownEnvironment String :=
  match s.commands.get? env.name with
  | some command => .ok command
  | none => .error ⟨env.name, s.commands.keys⟩

/-- The template in force: without one, the entrypoint is the only argument. -/
def argsTemplate (s : StrategySettings) : List ArgToken := s.argsEach.getD [.var .entrypoint]

end StrategySettings

namespace ExecutionLimits

/-- How many processes may run side by side, if the machine has so many processors, or an
unknown number of them. -/
def parallelism (l : ExecutionLimits) (processors? : Option Nat) : Nat :=
  if l.maxParallel = 0 then processors?.getD 4 else l.maxParallel.toNat

/-- Seconds after which a process is stopped. -/
def timeout? (l : ExecutionLimits) : Option Nat :=
  if l.timeoutSecs = 0 then none else some l.timeoutSecs.toNat

end ExecutionLimits

/-- Every category that the targets name, in byte order. -/
def Config.categories (c : Config) : List String :=
  ((Sorted.ofList (c.targets.entrypointFolders.keys ++ c.targets.watch.keys) : NameSet)).toList

end AssetWatch
