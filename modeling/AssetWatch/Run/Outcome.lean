import AssetWatch.Plan.Encode

/-!
# Outcomes and reports

A report has one result for each process of a plan, in the order of the plan. A process that
does not succeed is an outcome like any other, never an error.
-/

namespace AssetWatch

/-- What became of one process. -/
inductive Outcome
  | succeeded
  /-- ended with a status that is not zero, or with none, by a signal -/
  | failed (code : Option Int)
  | timedOut
  | spawnFailed (reason : String)
  /-- not started, since one before it did not succeed -/
  | skipped
  deriving DecidableEq

namespace Outcome

def isSuccess : Outcome → Bool
  | .succeeded => true
  | _ => false

def label : Outcome → String
  | .succeeded => "succeeded"
  | .failed _ => "failed"
  | .timedOut => "timed_out"
  | .spawnFailed _ => "spawn_failed"
  | .skipped => "skipped"

end Outcome

structure RunResult where
  invocation : Invocation
  outcome : Outcome
  durationMs : Nat
  deriving DecidableEq

structure Report where
  results : List RunResult
  deriving DecidableEq

namespace Report

def isSuccess (r : Report) : Bool := r.results.all (·.outcome.isSuccess)

/-- The results of the processes that did not succeed. -/
def failed (r : Report) : List RunResult := r.results.filter (!·.outcome.isSuccess)

def size (r : Report) : Nat := r.results.length

def isEmpty (r : Report) : Bool := r.results.isEmpty

end Report

end AssetWatch
