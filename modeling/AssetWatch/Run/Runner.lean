import AssetWatch.Run.Child
import AssetWatch.Run.FanOut
import AssetWatch.Run.Program

/-!
# Running a plan

The processes of a plan run side by side, at most so many at a time, or one after the other.
With `failFast` a sequence starts nothing more once a process did not succeed.
-/

namespace AssetWatch

/-- What all processes of a run have in common. -/
structure Runner where
  root : Path
  limits : ExecutionLimits
  /-- how many processors the machine has, if known -/
  processors? : Option Nat := none

/-- The processes of a plan: those that wait, those that run, and what became of the others. -/
abbrev PlanRun := FanOut Invocation (Invocation × Running) RunResult

namespace Runner

variable {σ : Type}

def launch (r : Runner) (env : Environment) (i : Invocation) : Launch :=
  { program := resolveProgram r.root i.program
    args := i.args
    directory := r.root
    environment := some env }

def limitMs (r : Runner) : Option Nat := r.limits.timeout?.map (· * 1000)

def resultOf (i : Invocation) (child : Child) : RunResult :=
  { invocation := i, outcome := child.outcome, durationMs := child.durationMs }

def skip (i : Invocation) : RunResult := { invocation := i, outcome := .skipped, durationMs := 0 }

/-- Starts one process. -/
def start (r : Runner) (m : Machine σ) (env : Environment) (i : Invocation) (state : σ) :
    ((Invocation × Running) ⊕ RunResult) × σ :=
  let launch := r.launch env i
  match m.start launch r.limitMs state with
  | (.ok process, state) => (.inl (i, { launch, process }), state)
  | (.error failure, state) => (.inr (resultOf i (.refused failure)), state)

/-- How many processes of a plan run side by side. -/
def width (r : Runner) (p : Plan) : Nat :=
  if p.concurrent then r.limits.parallelism r.processors? else 1

/-- How the processes of a plan are run. What became of one is taken down when it has its result, and
one that is skipped is taken down where it is passed over. -/
def work (r : Runner) (m : Machine σ) (p : Plan) :
    Work Invocation (Invocation × Running) RunResult σ :=
  { start := r.start m p.environment
    limit := r.width p
    halts := fun result => !p.concurrent && r.limits.failFast && !result.outcome.isSuccess
    skip
    note := fun result => m.record p.strategy result.outcome result.durationMs
    passOver := fun _ => m.record p.strategy .skipped 0 }

/-- The next process to end, with what its result is made of. -/
def next (m : Machine σ) (running : List (Invocation × Running)) (state : σ) :
    (Nat × (Invocation × Running → RunResult)) × σ :=
  let ((position, child), state) := m.next (running.map (·.2)) state
  ((position, fun (i, _) => resultOf i child), state)

/-- Starts the first processes of a plan. -/
def begin (r : Runner) (m : Machine σ) (p : Plan) (state : σ) : PlanRun × σ :=
  FanOut.begin (r.work m p) p.invocations state

/-- The running process at a position has ended. -/
def complete (r : Runner) (m : Machine σ) (p : Plan) (run : PlanRun) (position : Nat)
    (child : Child) (state : σ) : PlanRun × σ :=
  run.complete (r.work m p) position (fun (i, _) => resultOf i child) state

/-- Runs every process of a plan. -/
def execute (r : Runner) (m : Machine σ) (p : Plan) (state : σ) : Report × σ :=
  let (results, state) := FanOut.run (r.work m p) (next m) p.invocations state
  (⟨results⟩, state)

end Runner

end AssetWatch
