import AssetWatch.Plan.Template

/-!
# Plans

A plan lists the processes of a build in order; nothing runs yet. What differs between the
strategies is how the entrypoints are shared out among processes, which arguments a process
is given, and whether the processes may run side by side.
-/

namespace AssetWatch

/-- One process to start. -/
structure Invocation where
  program : String
  args : List String
  /-- the entrypoints that the process is responsible for -/
  entrypoints : List Path
  deriving DecidableEq

/-- A short name: the only entrypoint, or their number. -/
def Invocation.label (i : Invocation) : String :=
  match i.entrypoints with
  | [path] => path.text
  | paths => s!"{paths.length} entrypoints"

/-- The processes of a build, in order. -/
structure Plan where
  strategy : StrategyKind
  environment : Environment
  /-- the processes may run side by side -/
  concurrent : Bool
  invocations : List Invocation
  deriving DecidableEq

/-- What a build has to be done for, and with. -/
structure Workload where
  program : String
  environment : Environment
  entrypoints : List Entrypoint
  /-- only `singleExecution` reads it -/
  template : List ArgToken

/-- The processes of such a plan may run side by side. -/
def StrategyKind.isConcurrent (kind : StrategyKind) : Bool := kind == .parallelCompilation

namespace Workload

/-- A process for one entrypoint. -/
def single (w : Workload) (args : Entrypoint → List String) (e : Entrypoint) : Invocation :=
  { program := w.program, args := args e, entrypoints := [e.path] }

/-- A process for all entrypoints. -/
def batched (w : Workload) : Invocation :=
  { program := w.program
    args := w.entrypoints.map (·.path.text)
    entrypoints := w.entrypoints.map (·.path) }

def invocations (w : Workload) : StrategyKind → List Invocation
  | .parallelCompilation => w.entrypoints.map (w.single fun e => [e.path.text])
  | .singleExecution =>
    w.entrypoints.map (w.single fun e => w.template.map (·.expand e w.environment))
  | .singleBatchedExecution => if w.entrypoints.isEmpty then [] else [w.batched]

def plan (w : Workload) (kind : StrategyKind) : Plan :=
  { strategy := kind
    environment := w.environment
    concurrent := kind.isConcurrent
    invocations := w.invocations kind }

end Workload

namespace Plan

def isEmpty (p : Plan) : Bool := p.invocations.isEmpty

def labels (p : Plan) : List String := p.invocations.map Invocation.label

end Plan

end AssetWatch
