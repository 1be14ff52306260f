import AssetWatch.Run.FanOut

/-!
# Something kept beside the state

Work may do what other work does, and keep something beside its state. Its runs have the same results
then, and lead to the same state.
-/

namespace AssetWatch

/-- Some work does what other work does, and keeps something beside its state. -/
structure Work.Projects {α ι β σ τ : Type} (v : Work α ι β τ) (w : Work α ι β σ) (base : τ → σ) :
    Prop where
  limit : v.limit = w.limit
  halts : v.halts = w.halts
  skip : v.skip = w.skip
  start : ∀ a state, ((v.start a state).1, base (v.start a state).2) = w.start a (base state)
  note : ∀ b state, base (v.note b state) = w.note b (base state)
  passOver : ∀ a state, base (v.passOver a state) = w.passOver a (base state)

namespace FanOut

section Projection

variable {α ι β σ τ : Type} {v : Work α ι β τ} {w : Work α ι β σ} {base : τ → σ}

private theorem settle_project (projects : v.Projects w base) (f : FanOut α ι β) (number : Nat)
    (b : β)
    (state : τ) :
    ((f.settle v number b state).1, base (f.settle v number b state).2) =
      f.settle w number b (base state) := by
  unfold settle
  rw [projects.halts, projects.skip, ← projects.note]
  dsimp only
  split
  · refine Prod.ext rfl ?_
    exact (List.foldl_hom base fun state job => (projects.passOver job.2 state).symm).symm
  · rfl

private theorem fill_project (projects : v.Projects w base) (waiting : List (Nat × α))
    (f : FanOut α ι β)
    (state : τ) :
    ((fill v waiting f state).1, base (fill v waiting f state).2) = fill w waiting f (base state) := by
  induction waiting generalizing f state with
  | nil => rfl
  | cons first rest ih =>
    obtain ⟨i, a⟩ := first
    unfold fill
    rw [projects.limit, ← projects.start a state]
    split
    · cases v.start a state with
      | mk outcome state' =>
        cases outcome with
        | inl job => exact ih ..
        | inr b =>
          dsimp only
          rw [projects.halts, ← settle_project projects]
          split
          · rfl
          · exact ih ..
    · rfl

private theorem complete_project (projects : v.Projects w base) (f : FanOut α ι β) (position : Nat)
    (result : ι → β) (state : τ) :
    ((f.complete v position result state).1, base (f.complete v position result state).2) =
      f.complete w position result (base state) := by
  unfold complete
  split
  · rfl
  · dsimp only
    rw [← settle_project projects]
    exact fill_project projects ..

variable {next' : List ι → τ → (Nat × (ι → β)) × τ} {next : List ι → σ → (Nat × (ι → β)) × σ}

private theorem steps_project (projects : v.Projects w base)
    (ends : ∀ running state,
      ((next' running state).1, base (next' running state).2) = next running (base state))
    (count : Nat) (f : FanOut α ι β) (state : τ) :
    ((f.steps v next' count state).1, base (f.steps v next' count state).2) =
      f.steps w next count (base state) := by
  induction count generalizing f state with
  | zero => rfl
  | succ count ih =>
    unfold steps
    split
    · rfl
    · rw [← ends]
      obtain ⟨⟨position, result⟩, state⟩ := next' (f.running.map (·.2)) state
      dsimp only
      rw [← complete_project projects]
      exact ih ..

/-- A run has the same results, whatever is kept beside the state. -/
theorem run_project (projects : v.Projects w base)
    (ends : ∀ running state,
      ((next' running state).1, base (next' running state).2) = next running (base state))
    (jobs : List α) (state : τ) :
    ((run v next' jobs state).1, base (run v next' jobs state).2) = run w next jobs (base state) := by
  unfold run begin refill
  rw [← fill_project projects]
  obtain ⟨f, state⟩ := fill v (ofJobs jobs).waiting (ofJobs jobs) state
  dsimp only
  rw [← steps_project projects ends]

end Projection

end FanOut

end AssetWatch
