import AssetWatch.Plan.Strategy

/-!
# Sharing out entrypoints

The strategies share the same entrypoints out among processes: one process for each, or one for
all. None is left out, moved or doubled, and no process is started for nothing. The arguments of
a batch are those of the single processes put together, and a template that names nothing but the
entrypoint makes one after the other what runs side by side otherwise.
-/

namespace AssetWatch

def Plan.entrypoints (p : Plan) : List Path := p.invocations.flatMap (·.entrypoints)

def Plan.arguments (p : Plan) : List String := p.invocations.flatMap (·.args)

def StrategySettings.defaultTemplate : List ArgToken :=
  argsTemplate { kind := .singleExecution, argsEach := none }

namespace Workload

variable (w : Workload) (kind : StrategyKind)

/-! ## What each process is for -/

theorem invocations_batched_of_ne_nil (h : w.entrypoints ≠ []) :
    w.invocations .singleBatchedExecution = [w.batched] := by
  simp [invocations, h]

theorem invocations_batched_of_nil (h : w.entrypoints = []) :
    w.invocations .singleBatchedExecution = [] := by
  simp [invocations, h]

/-- However a strategy shares out the entrypoints, it leaves none out and adds none. -/
theorem entrypoints_plan : (w.plan kind).entrypoints = w.entrypoints.map (·.path) := by
  cases kind with
  | parallelCompilation | singleExecution =>
    rw [Plan.entrypoints, plan, invocations, List.flatMap_map, List.map_eq_flatMap]
    rfl
  | singleBatchedExecution =>
    rw [Plan.entrypoints, plan]
    by_cases h : w.entrypoints = []
    · rw [invocations_batched_of_nil w h, h]
      rfl
    · rw [invocations_batched_of_ne_nil w h, List.flatMap_singleton]
      rfl

/-- Every process runs the command, and for some entrypoint. -/
theorem of_mem_invocations {i : Invocation} (h : i ∈ w.invocations kind) :
    i.program = w.program ∧ i.entrypoints ≠ [] := by
  cases kind with
  | parallelCompilation | singleExecution =>
    obtain ⟨e, -, rfl⟩ := List.mem_map.1 h
    exact ⟨rfl, List.cons_ne_nil _ _⟩
  | singleBatchedExecution =>
    by_cases none : w.entrypoints = []
    · rw [invocations_batched_of_nil w none] at h
      cases h
    · rw [invocations_batched_of_ne_nil w none] at h
      obtain rfl := List.mem_singleton.1 h
      exact ⟨rfl, fun empty => none (List.map_eq_nil_iff.1 empty)⟩

theorem invocations_eq_nil_iff : w.invocations kind = [] ↔ w.entrypoints = [] := by
  constructor
  · intro h
    have nothing : w.entrypoints.map (·.path) = [] := by
      rw [← w.entrypoints_plan kind, Plan.entrypoints, plan, h]
      rfl
    exact List.map_eq_nil_iff.1 nothing
  · intro h
    cases kind <;> simp [invocations, h]

/-! ## What each process is given -/

private theorem arguments_parallel :
    (w.plan .parallelCompilation).arguments = w.entrypoints.map (·.path.text) := by
  rw [Plan.arguments, plan, invocations, List.flatMap_map, List.map_eq_flatMap]
  rfl

/-- A batch is given what the single processes are given, or is not started. -/
theorem args_batched :
    (w.plan .singleBatchedExecution).invocations.map (·.args) =
      if w.entrypoints = [] then [] else [(w.plan .parallelCompilation).arguments] := by
  split
  · rename_i h
    rw [plan, invocations_batched_of_nil w h]
    rfl
  · rename_i h
    rw [plan, invocations_batched_of_ne_nil w h, arguments_parallel]
    rfl

private theorem invocations_defaultTemplate :
    { w with template := StrategySettings.defaultTemplate }.invocations .singleExecution =
      w.invocations .parallelCompilation := rfl

/-- A plan does the work, and marks which of its processes may run side by side. -/
structure Does (p : Plan) : Prop where
  /-- every entrypoint, in order and as often as it is there -/
  entrypoints : p.entrypoints = w.entrypoints.map (·.path)
  /-- no process is started for nothing, and none runs anything else -/
  each : ∀ i ∈ p.invocations, i.program = w.program ∧ i.entrypoints ≠ []
  nothing : p.isEmpty = true ↔ w.entrypoints = []
  concurrent : p.concurrent = true ↔ kind = .parallelCompilation

private theorem does_plan : w.Does kind (w.plan kind) where
  entrypoints := w.entrypoints_plan kind
  each _ h := w.of_mem_invocations kind h
  nothing := List.isEmpty_iff.trans (w.invocations_eq_nil_iff kind)
  concurrent := beq_iff_eq

/-- All strategies do the same work, and what they give their processes agrees. -/
theorem strategies_agree :
    (∀ kind, w.Does kind (w.plan kind)) ∧
    (w.plan .singleBatchedExecution).invocations.map (·.args) =
      (if w.entrypoints = [] then [] else [(w.plan .parallelCompilation).arguments]) ∧
    (∀ template, { w with template }.plan .parallelCompilation = w.plan .parallelCompilation ∧
      { w with template }.plan .singleBatchedExecution = w.plan .singleBatchedExecution) ∧
    ({ w with template := StrategySettings.defaultTemplate }.plan .singleExecution).invocations =
      (w.plan .parallelCompilation).invocations :=
  ⟨w.does_plan, w.args_batched, fun _ => ⟨rfl, rfl⟩, w.invocations_defaultTemplate⟩

end Workload

end AssetWatch
