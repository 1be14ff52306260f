import AssetWatch.Proofs.Run.FanOut
import AssetWatch.Run.Runner

/-!
# What a report is about

A result tells which process it is of, whether the process was refused, ran or was skipped. So a
report is about the processes of the plan, each once and in their order, whatever the processes do
and whichever of them ends first.
-/

namespace AssetWatch

/-- A running job tells which job it is, and a result which job it is of. -/
structure Work.Tells {α ι β σ : Type} (w : Work α ι β σ) (ends : Endings ι β σ) (held : ι → α)
    (told : β → α) : Prop where
  start : ∀ {a state job state'}, w.start a state = (.inl job, state') → held job = a
  refuse : ∀ {a state b state'}, w.start a state = (.inr b, state') → told b = a
  skip : ∀ a, told (w.skip a) = a
  ends : ∀ {running state position result state'}, ends running state ((position, result), state') →
    ∀ job, told (result job) = held job

namespace FanOut

variable {α ι β σ : Type} {w : Work α ι β σ} {ends : Endings ι β σ} {f g : FanOut α ι β}
  {state state' : σ} {jobs : List α} {held : ι → α} {told : β → α}

structure Numbered (jobs : List α) (held : ι → α) (told : β → α) (f : FanOut α ι β) : Prop where
  waiting : ∀ e ∈ f.waiting, jobs[e.1]? = some e.2
  running : ∀ e ∈ f.running, jobs[e.1]? = some (held e.2)
  finished : ∀ e ∈ f.finished, jobs[e.1]? = some (told e.2)

private theorem numbered_ofJobs : Numbered jobs held told (ofJobs jobs : FanOut α ι β) where
  waiting := by
    rintro ⟨i, a⟩ he
    obtain ⟨n, inside, same⟩ := List.mem_mapIdx.1 he
    cases same
    exact List.getElem?_eq_getElem inside
  running := by simp [ofJobs]
  finished := by simp [ofJobs]

theorem Numbered.settle {n : Nat} {b : β} (tells : w.Tells ends held told)
    (h : Numbered jobs held told f) (result : jobs[n]? = some (told b)) :
    Numbered jobs held told (f.settle w n b state).1 := by
  unfold FanOut.settle
  dsimp only
  split
  · refine ⟨by simp, h.running, List.forall_mem_append.2 ⟨fun e he => ?_, ?_⟩⟩
    · obtain ⟨⟨i, a⟩, ha, rfl⟩ := List.mem_map.1 he
      rw [tells.skip]
      exact h.waiting _ (List.mem_reverse.1 ha)
    · exact List.forall_mem_cons.2 ⟨result, h.finished⟩
  · exact ⟨h.waiting, h.running, List.forall_mem_cons.2 ⟨result, h.finished⟩⟩

theorem Move.numbered (tells : w.Tells ends held told) (h : Move w ends (f, state) (g, state'))
    (numbered : Numbered jobs held told f) : Numbered jobs held told g := by
  cases h with
  | start waits free hs =>
    obtain ⟨first, rest⟩ := List.forall_mem_cons.1 (waits ▸ numbered.waiting)
    refine ⟨rest, List.forall_mem_append.2 ⟨numbered.running, ?_⟩, numbered.finished⟩
    rw [List.forall_mem_singleton, tells.start hs]
    exact first
  | refuse waits free hs =>
    obtain ⟨first, rest⟩ := List.forall_mem_cons.1 (waits ▸ numbered.waiting)
    refine Numbered.settle tells ⟨rest, numbered.running, numbered.finished⟩ ?_
    rw [tells.refuse hs]
    exact first
  | complete found ended =>
    refine Numbered.settle tells ⟨numbered.waiting, ?_, numbered.finished⟩ ?_
    · exact fun e he => numbered.running e (List.mem_of_mem_eraseIdx he)
    · rw [tells.ends ended]
      exact numbered.running _ (List.mem_of_getElem? found)

theorem Moves.numbered (tells : w.Tells ends held told)
    (h : Moves w ends (ofJobs jobs, state) (f, state')) : Numbered jobs held told f :=
  Moves.preserve (P := fun s => Numbered jobs held told s.1) (fun hm => hm.numbered tells) h
    numbered_ofJobs

/-- The results are of the jobs, one of each, in their order. -/
theorem map_told_run {next : List ι → σ → (Nat × (ι → β)) × σ} (slot : 0 < w.limit)
    (tells : w.Tells (next · · = ·) held told) : (run w next jobs state).1.map told = jobs := by
  obtain ⟨g, state', moves, once, ran⟩ := exists_run slot next jobs state
  have numbered : Numbered jobs held told g := moves.numbered tells
  have results : g.results.map told = jobs.mapIdx fun _ a => a :=
    map_results told once fun e he => by rw [numbered.finished e he]; rfl
  rw [ran, results]
  exact List.ext_getElem? fun i => by rw [List.getElem?_mapIdx, Option.map_id']

end FanOut

namespace Runner

variable {σ : Type} {r : Runner} {m : Machine σ} {p : Plan} {state : σ}

/-- At least one process runs at a time, for no machine counts fewer processors than one. -/
theorem width_pos (powered : ∀ n, r.processors? = some n → 0 < n) : 0 < r.width p := by
  unfold width ExecutionLimits.parallelism
  split
  · split
    · cases h : r.processors? with
      | none => decide
      | some n => exact powered n h
    · rename_i limited
      exact Nat.pos_of_ne_zero fun zero => limited (UInt64.toNat_inj.1 zero)
  · decide

theorem tells_work : (r.work m p).Tells (next m · · = ·) (·.1) (·.invocation) where
  start h := by
    simp only [work, Runner.start] at h
    split at h <;> cases h
    rfl
  refuse h := by
    simp only [work, Runner.start] at h
    split at h <;> cases h
    rfl
  skip _ := rfl
  ends h job := by
    cases h
    rfl

/-- A report is about the processes of the plan, in their order. -/
theorem invocations_execute (powered : ∀ n, r.processors? = some n → 0 < n) :
    (r.execute m p state).1.results.map (·.invocation) = p.invocations :=
  FanOut.map_told_run (width_pos powered) tells_work

end Runner

end AssetWatch
