import AssetWatch.Proofs.Run.Counts
import AssetWatch.Proofs.Run.FanOut
import AssetWatch.Proofs.Run.Projection
import AssetWatch.Run.Ledger
import AssetWatch.Run.Runner

/-!
# Counting where results arise

A run on a machine that counts gives the report and leads to the state that it does without. A
process is counted where it is refused or has ended, and one that is skipped where it is passed over.
So the counts are those of the results so far at any time, in whatever order processes end.
-/

namespace AssetWatch.Runner

variable {σ : Type} {r : Runner} {m : Machine σ} {p : Plan} {before : Metrics}

/-! ## Beside the state -/

private theorem start_counting (i : Invocation) (l : Ledger σ) :
    (r.work m.counting p).start i l =
      let (outcome, state) := (r.work m p).start i l.state
      (outcome, { l with state }) := by
  rcases h : m.start (r.launch p.environment i) r.limitMs l.state with ⟨_ | _, state⟩ <;>
    simp [work, start, Machine.counting, h]

private theorem metrics_start {i : Invocation} {l l' : Ledger σ}
    {outcome : (Invocation × Running) ⊕ RunResult}
    (h : (r.work m.counting p).start i l = (outcome, l')) : l'.metrics = l.metrics := by
  rw [start_counting] at h
  cases h
  rfl

private theorem projects_counting : (r.work m.counting p).Projects (r.work m p) (·.state) where
  limit := rfl
  halts := rfl
  skip := rfl
  start i l := by rw [start_counting]
  note _ _ := rfl
  passOver _ _ := rfl

/-- Counting changes neither the report nor the state. -/
theorem execute_counting (r : Runner) (m : Machine σ) (p : Plan) (l : Ledger σ) :
    ((r.execute m.counting p l).1, (r.execute m.counting p l).2.state) =
      r.execute m p l.state := by
  have ends (running : List (Invocation × Running)) (l : Ledger σ) :
      ((next m.counting running l).1, (next m.counting running l).2.state) =
        next m running l.state := rfl
  have same := FanOut.run_project (projects_counting (r := r) (m := m) (p := p)) ends p.invocations l
  rw [execute, execute, ← same]

/-! ## The results so far -/

/-- Any running process may end, in any way and whatever else has happened meanwhile. -/
def CountedEnd : Endings (Invocation × Running) RunResult (Ledger σ) :=
  fun _ l e => ∃ position child state,
    e = ((position, fun (i, _) => resultOf i child), { l with state })

def Counted (p : Plan) (before : Metrics) (s : PlanRun × Ledger σ) : Prop :=
  Metrics.Adds p.strategy (s.1.finished.map (·.2)) before s.2.metrics

private theorem adds_passOver {results : List RunResult} (waiting : List (Nat × Invocation))
    {l : Ledger σ} (adds : Metrics.Adds p.strategy results before l.metrics) :
    Metrics.Adds p.strategy ((waiting.reverse.map fun e => skip e.2) ++ results) before
      (waiting.foldl (fun l e => (r.work m.counting p).passOver e.2 l) l).metrics := by
  induction waiting generalizing results l with
  | nil => exact adds
  | cons first rest ih =>
    have more := ih (l := (r.work m.counting p).passOver first.2 l) (adds.record (skip first.2))
    simpa using more

private theorem Counted.settle {f : PlanRun} {l : Ledger σ} {number : Nat} {result : RunResult}
    (counted : Counted p before (f, l)) :
    Counted p before (f.settle (r.work m.counting p) number result l) := by
  have noted : Metrics.Adds p.strategy (result :: f.finished.map (·.2)) before
      ((r.work m.counting p).note result l).metrics := counted.record result
  cases halts : (r.work m.counting p).halts result with
  | true =>
    have passed := adds_passOver (r := r) (m := m) f.waiting noted
    simp only [FanOut.settle, halts, if_true, Counted, List.map_append, List.map_map,
      List.map_cons, Function.comp_def]
    exact passed
  | false =>
    rw [FanOut.settle_of_goesOn halts]
    exact noted

private theorem counted_move {s s' : PlanRun × Ledger σ}
    (move : FanOut.Move (r.work m.counting p) CountedEnd s s') (counted : Counted p before s) :
    Counted p before s' := by
  cases move with
  | start waits free started =>
    rw [Counted, metrics_start started]
    exact counted
  | refuse waits free refused =>
    refine Counted.settle ?_
    rw [Counted, metrics_start refused]
    exact counted
  | complete found ended =>
    obtain ⟨_, child, state, told⟩ := ended
    cases told
    refine Counted.settle ?_
    exact counted

/-- However processes end, the counts are those of the results so far. -/
theorem adds_of_moves {g : PlanRun} {l l' : Ledger σ}
    (moves : FanOut.Moves (r.work m.counting p) CountedEnd (FanOut.ofJobs p.invocations, l)
      (g, l')) :
    Metrics.Adds p.strategy g.results l.metrics l'.metrics := by
  have counted : Counted p l.metrics (g, l') :=
    FanOut.Moves.preserve (P := Counted p l.metrics) counted_move moves
      (Metrics.Adds.nil p.strategy l.metrics)
  exact Metrics.Adds.perm counted g.perm_results.symm

/-- What a run counts are the results of its report. -/
theorem execute_adds (r : Runner) (m : Machine σ) (p : Plan) (l : Ledger σ) :
    Metrics.Adds p.strategy (r.execute m.counting p l).1.results l.metrics
      (r.execute m.counting p l).2.metrics := by
  obtain ⟨g, moves, results⟩ :=
    FanOut.moves_run (w := r.work m.counting p) (next m.counting) p.invocations l
  have adds := adds_of_moves (FanOut.Moves.mono (fun _ _ _ next => ⟨_, _, _, next.symm⟩) moves)
  rwa [← results] at adds

/-! ## One process after the other -/

/-- Processes were started and have ended, and this is what was counted then. -/
def Reaches (r : Runner) (m : Machine σ) (p : Plan) (l : Ledger σ) (run : PlanRun)
    (metrics : Metrics) : Prop :=
  ∃ state, FanOut.Moves (r.work m.counting p) CountedEnd (FanOut.ofJobs p.invocations, l)
    (run, { state, metrics })

theorem Reaches.adds {l : Ledger σ} {run : PlanRun} {metrics : Metrics}
    (reached : r.Reaches m p l run metrics) :
    Metrics.Adds p.strategy run.results l.metrics metrics := by
  obtain ⟨state, moves⟩ := reached
  exact adds_of_moves moves

theorem reaches_begin (r : Runner) (m : Machine σ) (p : Plan) (l : Ledger σ) :
    r.Reaches m p l (r.begin m.counting p l).1 (r.begin m.counting p l).2.metrics :=
  ⟨(r.begin m.counting p l).2.state, FanOut.moves_refill⟩

theorem Reaches.complete {l : Ledger σ} {run : PlanRun} (now : Ledger σ)
    (reached : r.Reaches m p l run now.metrics) (position : Nat) (child : Child) :
    r.Reaches m p l (r.complete m.counting p run position child now).1
      (r.complete m.counting p run position child now).2.metrics := by
  by_cases idle : run.running = []
  · have same : r.complete m.counting p run position child now = (run, now) := by
      simp [Runner.complete, FanOut.complete, FanOut.job?, idle]
    rwa [same]
  · obtain ⟨state, moves⟩ := reached
    exact ⟨_, moves.trans (FanOut.moves_complete idle ⟨position, child, now.state, rfl⟩)⟩

end AssetWatch.Runner
