import AssetWatch.Host.Call
import AssetWatch.Run.Outcome

/-!
# Machines

A machine is asked to start a process, which it may refuse, and tells which of the running
processes ends next and what became of it: ended by itself, stopped when its time was up, or lost,
since waiting for it failed. It takes down what became of the processes of a plan. What all this
changes is the state of the machine.
-/

namespace AssetWatch

/-- A request to start a process. -/
structure Launch where
  program : Path
  args : List String
  directory : Path
  /-- told to the process by a variable, if given -/
  environment : Option Environment

/-- Why the system did not do what was asked of it, and after how long. -/
structure SystemFailure where
  reason : String
  ms : Nat := 0
  deriving DecidableEq

/-- What became of a process. -/
inductive Child
  | refused (failure : SystemFailure)
  | ended (ending : Host.Ending) (ms : Nat)
  /-- stopped after this time -/
  | stopped (ms : Nat)
  /-- it was started, but waiting for it failed -/
  | lost (failure : SystemFailure)
  deriving DecidableEq

namespace Child

def outcome : Child → Outcome
  | .refused failure | .lost failure => .spawnFailed failure.reason
  | .ended (.exited status) _ => if status = 0 then .succeeded else .failed (some status)
  | .ended (.killed _) _ => .failed none
  | .stopped _ => .timedOut

def durationMs : Child → Nat
  | .refused failure | .lost failure => failure.ms
  | .ended _ ms | .stopped ms => ms

end Child

/-- A process that runs, by what was asked for and its number. -/
structure Running where
  launch : Launch
  process : Nat

structure Machine (σ : Type) where
  /-- starts a process, which is stopped after so many milliseconds, and gives its number -/
  start : Launch → (limitMs : Option Nat) → σ → Except SystemFailure Nat × σ
  /-- lets the processes run until one of them ends: its position among them, and what became
  of it -/
  next : List Running → σ → (Nat × Child) × σ
  /-- takes down what became of a process of a plan with this strategy, and the time it took -/
  record : StrategyKind → Outcome → (ms : Nat) → σ → σ := fun _ _ _ state => state

end AssetWatch
