import AssetWatch.Proofs.Run.Report

/-!
# Side by side or one after the other

If what becomes of a process is settled by its place in the plan, then a plan that is run side by
side gives the report that it gives when its processes run one after the other, in whatever order
those that run side by side end.
-/

namespace AssetWatch

/-- Nothing halts the work, and the result of a job is settled by how many were started before. -/
structure Work.Fated {α ι β σ : Type} (w : Work α ι β σ) (ends : Endings ι β σ)
    (fits : Nat → α → ι → Prop) (value : Nat → α → β) (started : σ → Nat) : Prop where
  goesOn : ∀ b, w.halts b = false
  start : ∀ {a state job state'}, w.start a state = (.inl job, state') →
    started state' = started state + 1 ∧ fits (started state) a job
  refuse : ∀ {a state b state'}, w.start a state = (.inr b, state') →
    started state' = started state + 1 ∧ value (started state) a = b
  ends : ∀ {running state position result state'}, ends running state ((position, result), state') →
    started state' = started state ∧ ∀ {n a job}, running[position % running.length]? = some job →
      fits n a job → value n a = result job
  note : ∀ b state, started (w.note b state) = started state

namespace FanOut

variable {α ι β σ : Type} {w : Work α ι β σ} {ends : Endings ι β σ} {f g : FanOut α ι β}
  {state state' : σ} {jobs : List α} {fits : Nat → α → ι → Prop} {value : Nat → α → β}
  {started : σ → Nat}

/-- The jobs that wait are those behind the ones started so far, and the others run or have ended
as is settled for their numbers. -/
structure Follows (jobs : List α) (fits : Nat → α → ι → Prop) (value : Nat → α → β)
    (started : Nat) (f : FanOut α ι β) : Prop where
  waiting : f.waiting = (jobs.mapIdx fun i a => (i, a)).drop started
  running : ∀ e ∈ f.running, ∃ a, jobs[e.1]? = some a ∧ fits e.1 a e.2
  finished : ∀ e ∈ f.finished, jobs[e.1]?.map (value e.1) = some e.2

theorem Follows.settle {n : Nat} {b : β} (fated : w.Fated ends fits value started)
    (h : Follows jobs fits value (started state) f) (result : jobs[n]?.map (value n) = some b) :
    Follows jobs fits value (started (f.settle w n b state).2) (f.settle w n b state).1 := by
  rw [settle_of_goesOn (fated.goesOn b), fated.note]
  exact ⟨h.waiting, h.running, List.forall_mem_cons.2 ⟨result, h.finished⟩⟩

theorem Move.follows (fated : w.Fated ends fits value started)
    (h : Move w ends (f, state) (g, state')) (follows : Follows jobs fits value (started state) f) :
    Follows jobs fits value (started state') g := by
  cases h with
  | start waits free hs =>
    obtain ⟨rfl, found, rfl⟩ := next_of_waiting follows.waiting waits
    obtain ⟨counted, fit⟩ := fated.start hs
    refine ⟨by rw [counted], ?_, follows.finished⟩
    exact List.forall_mem_append.2 ⟨follows.running, by simpa using ⟨_, found, fit⟩⟩
  | refuse waits free hs =>
    obtain ⟨rfl, found, rfl⟩ := next_of_waiting follows.waiting waits
    obtain ⟨counted, rfl⟩ := fated.refuse hs
    refine Follows.settle fated ⟨by rw [counted], follows.running, follows.finished⟩ ?_
    rw [found]
    rfl
  | complete found ended =>
    obtain ⟨same, results⟩ := fated.ends ended
    obtain ⟨a, ha, fit⟩ := follows.running _ (List.mem_of_getElem? found)
    refine Follows.settle fated ⟨by rw [same]; exact follows.waiting, ?_, follows.finished⟩ ?_
    · exact fun e he => follows.running e (List.mem_of_mem_eraseIdx he)
    · have job := results (by rw [List.length_map, List.getElem?_map, ← job?, found]; rfl) fit
      rw [ha, ← job]
      rfl

theorem Moves.follows (fated : w.Fated ends fits value started)
    (h : Moves w ends (f, state) (g, state')) (follows : Follows jobs fits value (started state) f) :
    Follows jobs fits value (started state') g :=
  Moves.preserve (P := fun s => Follows jobs fits value (started s.2) s.1)
    (fun hm ih => hm.follows fated ih) h follows

/-- However many jobs run side by side, and whichever ends first, each gets its result. -/
theorem run_eq {next : List ι → σ → (Nat × (ι → β)) × σ} (slot : 0 < w.limit)
    (fated : w.Fated (next · · = ·) fits value started) (fresh : started state = 0) :
    (run w next jobs state).1 = jobs.mapIdx value := by
  obtain ⟨g, state', moves, once, ran⟩ := exists_run slot next jobs state
  have follows : Follows jobs fits value (started state') g := by
    refine moves.follows fated ⟨?_, by simp [ofJobs], by simp [ofJobs]⟩
    rw [fresh]
    rfl
  rw [ran]
  simpa using map_results id once follows.finished

end FanOut

/-- What becomes of each process is settled by how many were asked for before it: it is refused, or
it runs and ends so, whichever of the running processes ends first. -/
structure Machine.Fated {σ : Type} (m : Machine σ) (fate : Nat → Child) (started : σ → Nat)
    (index : Nat → Nat) : Prop where
  start : ∀ {launch limitMs state process state'},
    m.start launch limitMs state = (.ok process, state') →
      started state' = started state + 1 ∧ index process = started state
  refuse : ∀ {launch limitMs state failure state'},
    m.start launch limitMs state = (.error failure, state') →
      started state' = started state + 1 ∧ fate (started state) = .refused failure
  next : ∀ {running state position child state'},
    m.next running state = ((position, child), state') →
      started state' = started state ∧
      ∀ {r}, running[position % running.length]? = some r → child = fate (index r.process)
  record : ∀ kind outcome ms state, started (m.record kind outcome ms state) = started state

namespace Runner

variable {σ : Type} {r : Runner} {m : Machine σ} {p : Plan} {fate : Nat → Child}
  {started : σ → Nat} {index : Nat → Nat} {state : σ}

private theorem fated_work (fated : m.Fated fate started index)
    (goesOn : p.concurrent = true ∨ r.limits.failFast = false) :
    (r.work m p).Fated (next m · · = ·) (fun n i job => job.1 = i ∧ index job.2.process = n)
      (fun n i => resultOf i (fate n)) started where
  goesOn b := by rcases goesOn with h | h <;> simp [work, h]
  start {i state job state'} h := by
    simp only [work, Runner.start] at h
    split at h
    · rename_i hs
      cases h
      obtain ⟨counted, numbered⟩ := fated.start hs
      exact ⟨counted, rfl, numbered⟩
    · cases h
  refuse {i state b state'} h := by
    simp only [work, Runner.start] at h
    split at h
    · cases h
    · rename_i hs
      cases h
      obtain ⟨counted, settled⟩ := fated.refuse hs
      exact ⟨counted, by rw [settled]⟩
  ends {running state position result state'} h := by
    cases hn : m.next (running.map (·.2)) state with
    | mk ended state'' =>
      obtain ⟨place, child⟩ := ended
      rw [next, hn] at h
      cases h
      obtain ⟨same, settled⟩ := fated.next hn
      refine ⟨same, fun {n i job} found fit => ?_⟩
      obtain ⟨rfl, rfl⟩ := fit
      have here := settled (r := job.2) (by rw [List.length_map, List.getElem?_map, found]; rfl)
      rw [here]
  note _ _ := fated.record ..

/-- Every process gets its own result, in the order of the plan. -/
theorem results_execute (powered : ∀ n, r.processors? = some n → 0 < n)
    (fated : m.Fated fate started index) (fresh : started state = 0)
    (goesOn : p.concurrent = true ∨ r.limits.failFast = false) :
    (r.execute m p state).1.results = p.invocations.mapIdx fun n i => resultOf i (fate n) :=
  FanOut.run_eq (width_pos powered) (fated_work fated goesOn) fresh

theorem outcome_ne_skipped (child : Child) : child.outcome ≠ .skipped := by
  unfold Child.outcome
  split
  · simp
  · simp
  · split <;> simp
  · simp
  · simp

/-- A plan that is run side by side has the report of the same plan run one after the other without
giving up: one result for each process, in the order of the plan, which tells what became of it and
after how long, and none is skipped. -/
theorem execute_concurrent_eq {τ : Type} {m' : Machine τ} {started' : τ → Nat} {index' : Nat → Nat}
    {state' : τ} (powered : ∀ n, r.processors? = some n → 0 < n)
    (fated : m.Fated fate started index) (fresh : started state = 0)
    (fated' : m'.Fated fate started' index') (fresh' : started' state' = 0) :
    let report := (r.execute m { p with concurrent := true } state).1
    report.results.map (·.invocation) = p.invocations ∧
      report.results = p.invocations.mapIdx (fun n i => resultOf i (fate n)) ∧
      (∀ result ∈ report.results, result.outcome ≠ .skipped) ∧
      report = ({ r with limits := { r.limits with failFast := false } }.execute m'
        { p with concurrent := false } state').1 := by
  have abreast : (r.execute m { p with concurrent := true } state).1.results =
      p.invocations.mapIdx fun n i => resultOf i (fate n) :=
    results_execute powered fated fresh (.inl rfl)
  have inTurn : ({ r with limits := { r.limits with failFast := false } }.execute m'
      { p with concurrent := false } state').1.results =
      p.invocations.mapIdx fun n i => resultOf i (fate n) :=
    results_execute powered fated' fresh' (.inr rfl)
  refine ⟨?_, abreast, fun result h => ?_, ?_⟩
  · rw [abreast]
    refine List.ext_getElem? fun n => ?_
    rw [List.getElem?_map, List.getElem?_mapIdx, Option.map_map]
    exact Option.map_id' ..
  · rw [abreast] at h
    obtain ⟨n, inside, rfl⟩ := List.mem_mapIdx.1 h
    exact outcome_ne_skipped _
  · exact congrArg Report.mk (abreast.trans inTurn.symm)

end Runner

/-- A machine on which each process has its fate, and which follows a list of places at which
running processes end; the state is how many were asked for, and what is left of the list. -/
def Machine.scripted (fate : Nat → Child) : Machine (Nat × List Nat) where
  start _ _ state :=
    let outcome := match fate state.1 with
      | .refused failure => .error failure
      | _ => .ok state.1
    (outcome, (state.1 + 1, state.2))
  next running state :=
    let position := state.2.headD 0
    let child := match running[position % running.length]? with
      | some r => fate r.process
      | none => .stopped 0
    ((position, child), (state.1, state.2.tail))

private theorem Machine.fated_scripted (fate : Nat → Child) :
    (scripted fate).Fated fate (·.1) id where
  start h := by
    simp only [scripted, Prod.mk.injEq] at h
    obtain ⟨started, rfl⟩ := h
    split at started
    · cases started
    · cases started
      exact ⟨rfl, rfl⟩
  refuse h := by
    simp only [scripted, Prod.mk.injEq] at h
    obtain ⟨refused, rfl⟩ := h
    split at refused
    · rename_i settled
      cases refused
      exact ⟨rfl, settled⟩
    · cases refused
  next h := by
    simp only [scripted, Prod.mk.injEq] at h
    obtain ⟨⟨rfl, rfl⟩, rfl⟩ := h
    refine ⟨rfl, fun {r} found => ?_⟩
    rw [found]
    rfl
  record _ _ _ _ := rfl

/-- Two processes of four are the same, two run at a time, and the second ends first. One cannot be
started, and waiting for another fails. -/
theorem Runner.execute_concurrent_eq_scripted :
    let r : Runner := { root := ⟨"/p"⟩, limits := { maxParallel := 2, failFast := true } }
    let a : Invocation := { program := "bundle", args := ["a"], entrypoints := [⟨"a"⟩] }
    let b : Invocation := { program := "bundle", args := ["b"], entrypoints := [⟨"b"⟩] }
    let p : Plan := {
      strategy := .parallelCompilation, environment := ⟨"test"⟩, concurrent := true
      invocations := [a, b, a, b] }
    let fate (n : Nat) : Child :=
      if n = 0 then .ended (.exited 1) 30
      else if n = 1 then .lost ⟨"No child processes (os error 10)", 10⟩
      else if n = 2 then .refused ⟨"Resource temporarily unavailable (os error 11)", 5⟩
      else .stopped 40
    let report := (r.execute (.scripted fate) { p with concurrent := true } (0, [1, 1, 0])).1
    report.results.map (·.invocation) = p.invocations ∧
      report.results = [⟨a, .failed (some 1), 30⟩,
        ⟨b, .spawnFailed "No child processes (os error 10)", 10⟩,
        ⟨a, .spawnFailed "Resource temporarily unavailable (os error 11)", 5⟩, ⟨b, .timedOut, 40⟩] ∧
      (∀ result ∈ report.results, result.outcome ≠ .skipped) ∧
      report = ({ r with limits := { r.limits with failFast := false } }.execute (.scripted fate)
        { p with concurrent := false } (0, [])).1 := by
  intro r a b p fate
  exact execute_concurrent_eq (by simp [r]) (Machine.fated_scripted fate) rfl
    (Machine.fated_scripted fate) rfl

end AssetWatch
