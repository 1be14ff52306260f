import AssetWatch.Proofs.Run.Recording
import AssetWatch.Proofs.Session.Planning
import AssetWatch.Session.Watching
import Mathlib.Algebra.BigOperators.Group.List.Basic
import Mathlib.Algebra.GroupWithZero.Nat

/-!
# What the counts tell

Over any builds, one after the other, each result is counted once by strategy and outcome and once
among the durations, and each report once by its verdict. A build that cannot be planned is not
counted, and an empty plan is a build that succeeds.
-/

namespace AssetWatch

variable {σ : Type}

/-! ## Counts of reports -/

namespace Metrics

variable {m m' : Metrics} {kind : StrategyKind} {report : Report}
  {told : List (StrategyKind × Report)}

def resultsOf (kind : StrategyKind) (told : List (StrategyKind × Report)) : List RunResult :=
  (told.filter (·.1 = kind)).flatMap (·.2.results)

private theorem resultsOf_append_singleton (k : StrategyKind) :
    resultsOf k (told ++ [(kind, report)]) =
    resultsOf k told ++ if k = kind then report.results else [] := by
  rw [resultsOf, List.filter_append, List.flatMap_append, ← resultsOf]
  by_cases same : k = kind
  · simp [same]
  · simp [same, Ne.symm same]

/-- Each result has one of the labels. -/
theorem sum_countP_outcomeLabels (results : List RunResult) :
    (outcomeLabels.map fun label => results.countP (·.outcome.label = label)).sum =
      results.length := by
  induction results with
  | nil => rfl
  | cons r results ih =>
    have one : (outcomeLabels.map fun label => if r.outcome.label = label then 1 else 0).sum = 1 := by
      cases r.outcome <;> rfl
    simp only [List.countP_cons, List.length_cons, decide_eq_true_eq, List.sum_map_add, ih, one]

structure Tallies (told : List (StrategyKind × Report)) (m : Metrics) : Prop where
  invocations : ∀ kind label,
    m.invocations kind label = (resultsOf kind told).countP (·.outcome.label = label)
  outcomes : ∀ kind, (outcomeLabels.map (m.invocations kind)).sum = (resultsOf kind told).length
  durations : ∀ kind, (m.durations kind).count = (resultsOf kind told).length
  builds : ∀ verdict, m.builds verdict = told.countP (·.2.isSuccess = verdict)

private theorem tallies_nil : Tallies []
    {} := ⟨fun _ _ => rfl, fun _ => rfl, fun _ => rfl, fun _ => rfl⟩

/-- Changes are counted apart. -/
theorem Tallies.changes (h : Tallies told m) (paths : UInt64) :
    Tallies told (m.recordChanges paths) := ⟨h.invocations, h.outcomes, h.durations, h.builds⟩

/-- One more report is counted, by its results and its verdict. -/
theorem Tallies.add (h : Tallies told m) (adds : Adds kind report.results m m') :
    Tallies (told ++ [(kind, report)]) (m'.recordBuild report.isSuccess) := by
  have invocations (k : StrategyKind) (label : String) : m'.invocations k label =
      (resultsOf k (told ++ [(kind, report)])).countP (·.outcome.label = label) := by
    rw [adds.invocations, h.invocations, resultsOf_append_singleton, List.countP_append]
    split <;> rfl
  exact {
    invocations := invocations
    outcomes := fun k => by
      rw [← sum_countP_outcomeLabels]
      exact congrArg List.sum (List.map_congr_left fun label _ => invocations k label)
    durations := fun k => by
      change (m'.durations k).count = _
      rw [adds.durations, h.durations, resultsOf_append_singleton, List.length_append]
      split <;> rfl
    builds := fun verdict => by
      rw [builds_recordBuild, adds.builds, h.builds, List.countP_append]
      simp [List.countP_cons] }

end Metrics

/-! ## Builds one after the other -/

namespace Session

variable {s : Session} {x : Executor σ} {b : Build} {names : List String} {found : Nat → Config}
  {l : Ledger σ}

/-- Any builds of any sessions, with other things done and changes recorded between them: what they
leave behind, and the reports of those that were planned, with their strategies. A watched build is
done process by process. -/
inductive Builds : Ledger σ → List (StrategyKind × Report) → Prop
  | fresh (state : σ) : Builds { state } []
  | between {l : Ledger σ} {told : List (StrategyKind × Report)} (state : σ)
      (before : Builds l told) : Builds { l with state } told
  | changes {l : Ledger σ} {told : List (StrategyKind × Report)} (paths : UInt64)
      (before : Builds l told) : Builds { l with metrics := l.metrics.recordChanges paths } told
  | refused {l : Ledger σ} {told : List (StrategyKind × Report)} {s : Session} {x : Executor σ}
      {names : List String} {found : Nat → Config} {error : BuildError} (before : Builds l told)
      (refused : ((s.build x names l).seeing found).1 = .error error) :
      Builds ((s.build x names l).seeing found).2 told
  | built {l : Ledger σ} {told : List (StrategyKind × Report)} {s : Session} {x : Executor σ}
      {names : List String} {found : Nat → Config} {b : Build} {report : Report}
      (before : Builds l told) (prepared : (s.prepare x l.state names).seeing found = .ok b)
      (built : ((s.build x names l).seeing found).1 = .ok report) :
      Builds ((s.build x names l).seeing found).2 (told ++ [(b.plan.strategy, report)])
  | watched {l : Ledger σ} {told : List (StrategyKind × Report)} {s : Session} {x : Executor σ}
      {names : List String} {found : Nat → Config} {going : Going} {metrics : Metrics} (state : σ)
      (before : Builds l told)
      (prepared : (s.prepare x l.state names).seeing found = .ok going.build)
      (ran : (s.runner x going.build).Reaches x.machine going.build.plan l going.run metrics)
      (ended : going.run.isDone = true) :
      Builds { state, metrics := metrics.recordBuild (Report.isSuccess ⟨going.run.results⟩) }
        (told ++ [(going.build.plan.strategy, ⟨going.run.results⟩)])

/-- An empty plan gives an empty report, and nothing is asked for. -/
theorem run_of_empty (empty : b.plan.invocations = []) :
    s.run x b l = (⟨[]⟩, { l with metrics := l.metrics.recordBuild true }) := by
  rw [run, Runner.execute, empty, FanOut.run_nil]
  rfl

theorem Builds.tallies {told : List (StrategyKind × Report)} (builds : Builds l told) :
    Metrics.Tallies told l.metrics := by
  induction builds with
  | fresh state => exact Metrics.tallies_nil
  | between state _ ih => exact ih
  | changes paths _ ih => exact ih.changes paths
  | refused _ refused ih => rwa [build_of_refused refused]
  | built _ prepared built ih =>
    rw [build_of_prepared prepared] at built ⊢
    cases built
    exact ih.add (Runner.execute_adds ..)
  | watched state _ _ ran _ ih => exact ih.add ran.adds

structure Leaves (s : Session) (x : Executor σ) (names : List String) (found : Nat → Config)
    (l : Ledger σ) : Prop where
  /-- a build that is not planned is not counted -/
  refused : ∀ error, ((s.build x names l).seeing found).1 = .error error →
    ((s.build x names l).seeing found).2 = l
  /-- counting makes no difference to the report and to the state -/
  uncounted : ∀ b, (s.prepare x l.state names).seeing found = .ok b →
    ((s.build x names l).seeing found).1 =
      .ok ((s.runner x b).execute x.machine b.plan l.state).1 ∧
    ((s.build x names l).seeing found).2.state =
      ((s.runner x b).execute x.machine b.plan l.state).2
  /-- an empty plan is counted as a build that succeeds, without processes -/
  empty : ∀ b, (s.prepare x l.state names).seeing found = .ok b → b.plan.invocations = [] →
    (s.build x names l).seeing found =
      (.ok ⟨[]⟩, { l with metrics := l.metrics.recordBuild true })

theorem leaves (s : Session) (x : Executor σ) (names : List String) (found : Nat → Config)
    (l : Ledger σ) : s.Leaves x names found l where
  refused _ := build_of_refused
  uncounted b prepared := by
    rw [build_of_prepared prepared, ← Runner.execute_counting]
    exact ⟨rfl, rfl⟩
  empty b prepared none := by
    rw [build_of_prepared prepared, run_of_empty none]

end Session

end AssetWatch
