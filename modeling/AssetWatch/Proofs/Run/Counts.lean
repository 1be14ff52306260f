import AssetWatch.Metrics

/-!
# What recording adds up to

Each result that is recorded adds one to the count of its strategy and outcome and one to the
number of durations; each build adds one to the count of its verdict. So the counts do not depend
on the order in which results are recorded.
-/

namespace AssetWatch.Metrics

variable {m : Metrics} {kind k : StrategyKind} {label : String}

private theorem invocations_recordInvocation (outcome : Outcome) (ms : Nat) :
    (m.recordInvocation kind outcome ms).invocations k label =
      m.invocations k label + if k = kind ∧ outcome.label = label then 1 else 0 := by
  simp only [recordInvocation, eq_comm (a := label)]
  split <;> rfl

private theorem count_recordInvocation (outcome : Outcome) (ms : Nat) :
    ((m.recordInvocation kind outcome ms).durations k).count =
      (m.durations k).count + if k = kind then 1 else 0 := by
  simp only [recordInvocation]
  split <;> rfl

theorem builds_recordBuild (success verdict : Bool) : (m.recordBuild success).builds verdict =
    m.builds verdict + if success = verdict then 1 else 0 := by
  simp only [recordBuild, eq_comm (a := verdict)]
  split <;> rfl

/-- The counts of some results are added, in whatever order they were recorded. -/
structure Adds (kind : StrategyKind) (results : List RunResult) (before after : Metrics) : Prop where
  invocations : ∀ k label, after.invocations k label =
    before.invocations k label + if k = kind then results.countP (·.outcome.label = label) else 0
  durations : ∀ k, (after.durations k).count =
    (before.durations k).count + if k = kind then results.length else 0
  builds : after.builds = before.builds

namespace Adds

variable {results more : List RunResult} {before after : Metrics}

theorem nil (kind : StrategyKind) (m : Metrics) : Adds kind [] m m :=
  ⟨fun _ _ => by simp, fun _ => by simp, rfl⟩

/-- One more result is recorded. -/
theorem record (h : Adds kind results before after) (r : RunResult) :
    Adds kind (r :: results) before (after.recordInvocation kind r.outcome r.durationMs) where
  invocations k label := by
    rw [invocations_recordInvocation, h.invocations, List.countP_cons]
    by_cases same : k = kind
    · simp [same, Nat.add_assoc]
    · simp [same]
  durations k := by
    rw [count_recordInvocation, h.durations, List.length_cons]
    by_cases same : k = kind
    · simp [same, Nat.add_assoc]
    · simp [same]
  builds := h.builds

theorem perm (h : Adds kind results before after) (same : results.Perm more) :
    Adds kind more before after where
  invocations k label := by rw [h.invocations, same.countP_eq]
  durations k := by rw [h.durations, same.length_eq]
  builds := h.builds

end Adds

end AssetWatch.Metrics
