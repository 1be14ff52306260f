import AssetWatch.Run.Outcome
import AssetWatch.Text.Decimal

/-!
# Metrics

What is counted over the life of a program: processes by strategy and outcome, the time they
took, builds by result, and changed paths. A metric is shown once something was recorded for
it.
-/

namespace AssetWatch

/-- Time spent, in seconds, and in how many processes. -/
structure Timing where
  count : Nat := 0
  seconds : Float := 0

structure Metrics where
  /-- processes by strategy and by the label of their outcome -/
  invocations : StrategyKind → String → Nat := fun _ _ => 0
  durations : StrategyKind → Timing := fun _ => {}
  /-- builds that succeeded, and those that did not -/
  builds : Bool → Nat := fun _ => 0
  changes : Option UInt64 := none

namespace Metrics

/-- Whole seconds and the rest of a second are rounded apart, then added. -/
def secondsOf (ms : Nat) : Float :=
  Float.ofNat (ms / 1000) + Float.ofNat (ms % 1000 * 1000000) / 1000000000

def Timing.add (t : Timing) (ms : Nat) : Timing :=
  { count := t.count + 1, seconds := t.seconds + secondsOf ms }

def recordInvocation (kind : StrategyKind) (outcome : Outcome) (ms : Nat) (m : Metrics) : Metrics :=
  { m with
    invocations := fun k label =>
      if k = kind ∧ label = outcome.label then m.invocations k label + 1 else m.invocations k label
    durations := fun k => if k = kind then Timing.add (m.durations k) ms else m.durations k }

def recordBuild (success : Bool) (m : Metrics) : Metrics :=
  { m with builds := fun s => if s = success then m.builds s + 1 else m.builds s }

/-- Adds to the number of changed paths, which wraps around. -/
def recordChanges (paths : UInt64) (m : Metrics) : Metrics :=
  { m with changes := some (m.changes.getD 0 + paths) }

/-! ## Text -/

/-- One line: a name, its labels, and a value. -/
def line (name : String) (labels : List (String × String)) (value : String) : String :=
  let shown := labels.map fun (label, text) => label ++ "=\"" ++ text ++ "\""
  let braced :=
    if labels.isEmpty then "" else "\x7b" ++ String.intercalate "," shown ++ "\x7d"
  name ++ braced ++ " " ++ value

/-- A line for a count that is not zero. -/
def countLine (name : String) (labels : List (String × String)) (count : Nat) : List String :=
  if count = 0 then [] else [line name labels (toString count)]

def outcomeLabels : List String := ["failed", "skipped", "spawn_failed", "succeeded", "timed_out"]

def durationLines (m : Metrics) (kind : StrategyKind) : List String :=
  let timing := m.durations kind
  let name := "bundle_invocation_duration_seconds"
  if timing.count = 0 then []
  else [
    line (name ++ "_count") [("strategy", kind.name)] (toString timing.count),
    line (name ++ "_sum") [("strategy", kind.name)] (Text.Decimal.shortest timing.seconds)]

def invocationLines (m : Metrics) (kind : StrategyKind) : List String :=
  outcomeLabels.flatMap fun label =>
    countLine "bundle_invocations_total" [("strategy", kind.name), ("outcome", label)]
      (m.invocations kind label)

/-- Every metric on a line, in byte order. -/
def lines (m : Metrics) : List String :=
  let all :=
    countLine "bundle_builds_total" [("result", "success")] (m.builds true) ++
    countLine "bundle_builds_total" [("result", "failure")] (m.builds false) ++
    (m.changes.map fun n => line "bundle_changes_total" [] (toString n)).toList ++
    StrategyKind.all.flatMap m.durationLines ++ StrategyKind.all.flatMap m.invocationLines
  all.mergeSort (· ≤ ·)

end Metrics

end AssetWatch
