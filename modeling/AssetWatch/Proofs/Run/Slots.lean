import AssetWatch.Proofs.Run.Agreement
import AssetWatch.Proofs.Run.Launches
import AssetWatch.Proofs.Run.Projection

/-!
# Slots are bounded, and none stays free

The processes of a plan that are run side by side are asked for in the order of the plan, each once,
and never more of them run than there are slots. Where the run waits for one of them to end, as many
run as can: all slots are taken, or all that have not ended run. Which of them ends next, and what
becomes of it, is left open.
-/

namespace AssetWatch

/-- The state has a mark of each job that was asked for, in turn. -/
structure Work.Logs {α ι β γ σ : Type} (w : Work α ι β σ) (ends : Endings ι β σ) (mark : α → γ)
    (log : σ → List γ) : Prop where
  start : ∀ {a state outcome state'}, w.start a state = (outcome, state') →
    log state' = log state ++ [mark a]
  ends : ∀ {running state e state'}, ends running state (e, state') → log state' = log state
  note : ∀ b state, log (w.note b state) = log state
  passOver : ∀ a state, log (w.passOver a state) = log state

/-- It makes no difference that other endings are possible. -/
theorem Work.Logs.mono {α ι β γ σ : Type} {w : Work α ι β σ} {ends ends' : Endings ι β σ}
    {mark : α → γ} {log : σ → List γ} (logs : w.Logs ends mark log)
    (le : ∀ running state e, ends' running state e → ends running state e) :
    w.Logs ends' mark log where
  start := logs.start
  ends h := logs.ends (le _ _ _ h)
  note := logs.note
  passOver := logs.passOver

namespace FanOut

variable {α ι β γ σ : Type} {w : Work α ι β σ} {ends : Endings ι β σ} {f g : FanOut α ι β}
  {state state' : σ} {jobs : List α} {mark : α → γ} {log : σ → List γ}

/-! ## In the order of the jobs -/

/-- The jobs that were asked for are the first ones, and the others wait. -/
structure InTurn (jobs : List α) (mark : α → γ) (log : List γ) (f : FanOut α ι β) : Prop where
  asked : log = (jobs.take log.length).map mark
  waiting : f.waiting = (jobs.mapIdx fun i a => (i, a)).drop log.length

theorem InTurn.next {marks : List γ} {i : Nat} {a : α} {rest : List (Nat × α)}
    (h : InTurn jobs mark marks f) (waits : f.waiting = (i, a) :: rest) :
    InTurn jobs mark (marks ++ [mark a]) { f with waiting := rest } := by
  obtain ⟨-, found, others⟩ := next_of_waiting h.waiting waits
  refine ⟨?_, by simpa using others⟩
  calc marks ++ [mark a]
      = (jobs.take marks.length).map mark ++ [mark a] := by rw [← h.asked]
    _ = (jobs.take (marks.length + 1)).map mark := by rw [List.take_add_one, found]; simp
    _ = (jobs.take (marks ++ [mark a]).length).map mark := by simp

theorem log_settle (logs : w.Logs ends mark log) {number : Nat} {b : β} :
    log (f.settle w number b state).2 = log state :=
  keeps_settle (I := (log · = log state)) (fun b _ same => (logs.note b _).trans same)
    (fun a _ same => (logs.passOver a _).trans same) rfl

theorem InTurn.settle {marks : List γ} {number : Nat} {b : β} (goesOn : ∀ b, w.halts b = false)
    (h : InTurn jobs mark marks f) : InTurn jobs mark marks (f.settle w number b state).1 := by
  rw [settle_of_goesOn (goesOn b)]
  exact ⟨h.asked, h.waiting⟩

theorem Move.inTurn (logs : w.Logs ends mark log) (goesOn : ∀ b, w.halts b = false)
    (h : Move w ends (f, state) (g, state'))
    (inTurn : InTurn jobs mark (log state) f) : InTurn jobs mark (log state') g := by
  cases h with
  | start waits free started =>
    rw [logs.start started]
    have next := inTurn.next waits
    exact ⟨next.asked, next.waiting⟩
  | refuse waits free refused =>
    rw [log_settle logs, logs.start refused]
    exact (inTurn.next waits).settle goesOn
  | complete found ended =>
    rw [log_settle logs, logs.ends ended]
    exact InTurn.settle goesOn ⟨inTurn.asked, inTurn.waiting⟩

theorem Moves.inTurn (logs : w.Logs ends mark log) (goesOn : ∀ b, w.halts b = false)
    (fresh : log state = []) (h : Moves w ends (ofJobs jobs, state) (f, state')) :
    InTurn jobs mark (log state') f := by
  refine Moves.preserve (P := fun s => InTurn jobs mark (log s.2) s.1)
    (fun hm inTurn => hm.inTurn logs goesOn inTurn) h ?_
  rw [fresh]
  exact ⟨rfl, rfl⟩

/-- What was asked for runs or has ended, each in one place. -/
theorem InTurn.once {marks : List γ} (inTurn : InTurn jobs mark marks f)
    (h : Moves w ends (ofJobs jobs, state) (f, state')) :
    (f.running.map (·.1) ++ f.finished.map (·.1)).Perm (List.range marks.length) := by
  have all : f.numbers.Perm (List.range jobs.length) := numbers_ofJobs ▸ Moves.numbers h
  have inside : marks.length ≤ jobs.length := by
    have counted := congrArg List.length inTurn.asked
    simp only [List.length_map, List.length_take] at counted
    omega
  have waiting : f.waiting.map (·.1) = (List.range jobs.length).drop marks.length := by
    rw [inTurn.waiting, List.map_drop]
    simp [List.range_eq_range', List.mapIdx_eq_zipIdx_map, Function.comp_def]
  rw [numbers, waiting, List.append_assoc] at all
  refine (List.perm_append_left_iff ((List.range jobs.length).drop marks.length)).1 (all.trans ?_)
  refine (List.Perm.of_eq (List.take_append_drop marks.length _).symm).trans ?_
  rw [List.take_range, Nat.min_eq_left inside]
  exact List.perm_append_comm

/-! ## As many at a time as there are slots -/

@[simp]
private theorem running_settle (f : FanOut α ι β) (number : Nat) (b : β) (state : σ) :
    (f.settle w number b state).1.running = f.running := by
  unfold settle
  dsimp only
  split <;> rfl

private theorem Move.capped (h : Move w ends (f, state) (g, state'))
    (capped : f.running.length ≤ w.limit) :
    g.running.length ≤ w.limit := by
  cases h with
  | start waits free => simpa using Nat.succ_le_of_lt free
  | refuse => simpa using capped
  | complete =>
    rw [running_settle]
    exact Nat.le_trans (List.length_eraseIdx_le ..) capped

/-- Never more jobs run than may. -/
theorem Moves.capped (h : Moves w ends (ofJobs jobs, state) (f, state')) :
    f.running.length ≤ w.limit :=
  Moves.preserve (P := fun s => s.1.running.length ≤ w.limit) Move.capped h (Nat.zero_le _)

/-- A job that has not ended waits or runs. -/
theorem Moves.unfinished (h : Moves w ends (ofJobs jobs, state) (f, state')) :
    f.pending = jobs.length - f.finished.length := by
  have all : f.numbers.Perm (List.range jobs.length) := numbers_ofJobs ▸ Moves.numbers h
  have counted := all.length_eq
  simp only [FanOut.numbers, List.length_append, List.length_map, List.length_range] at counted
  rw [FanOut.pending]
  omega

/-! ## Wherever a run waits -/

/-- As many jobs run as may, or as there are. -/
theorem Rests.busy (h : Rests w ends jobs state (f, state')) :
    f.running.length = min w.limit (jobs.length - f.finished.length) := by
  have capped := h.moves.capped
  rw [← h.moves.unfinished, pending]
  rcases h.filled with noneWaits | full
  · have none : f.waiting.length = 0 := congrArg List.length noneWaits
    omega
  · have all : f.running.length = w.limit := Nat.le_antisymm capped full
    omega

end FanOut

namespace Runner

variable {σ : Type} {r : Runner} {m : Machine σ} {p : Plan} {state : σ}

/-- Any running process may end, in any way and whatever else has happened meanwhile. -/
def AnyEnd : Endings (Invocation × Running) RunResult (σ × List Launch) :=
  fun _ s e => ∃ position child state,
    e = ((position, fun (i, _) => resultOf i child), (state, s.2))

/-- The list is kept beside what happens. -/
theorem start_logging (i : Invocation) (s : σ × List Launch) :
    (r.work m.logging p).start i s =
      let (outcome, state) := (r.work m p).start i s.1
      (outcome, (state, s.2 ++ [r.launch p.environment i])) := by
  rcases h : m.start (r.launch p.environment i) r.limitMs s.1 with ⟨_ | _, state⟩ <;>
    simp [work, start, Machine.logging, h]

private theorem projects_logging : (r.work m.logging p).Projects (r.work m p) (·.1) where
  limit := rfl
  halts := rfl
  skip := rfl
  start i s := by rw [start_logging]
  note _ _ := rfl
  passOver _ _ := rfl

private theorem log_start {i : Invocation} {s s' : σ × List Launch}
    {outcome : (Invocation × Running) ⊕ RunResult}
    (h : (r.work m.logging p).start i s = (outcome, s')) :
    s'.2 = s.2 ++ [r.launch p.environment i] := by
  rw [start_logging] at h
  cases h
  rfl

theorem logs_work : (r.work m.logging p).Logs AnyEnd (r.launch p.environment) (·.2) where
  start := log_start
  ends := by
    rintro running s e s' ⟨position, child, state, told⟩
    cases told
    rfl
  note _ _ := rfl
  passOver _ _ := rfl

private theorem tells_logging : (r.work m.logging p).Tells AnyEnd (·.1) (·.invocation) where
  start := tells_work.start
  refuse := tells_work.refuse
  skip := tells_work.skip
  ends := by
    rintro running s position result s' ⟨_, child, state, told⟩ job
    cases told
    rfl

private theorem width_of_concurrent (concurrent : p.concurrent = true) :
    r.width p = r.limits.parallelism r.processors? := if_pos concurrent

/-- Keeping a list of what was asked for makes no difference. -/
theorem execute_logging (r : Runner) (m : Machine σ) (p : Plan) (s : σ × List Launch) :
    (r.execute m.logging p s).1 = (r.execute m p s.1).1 := by
  have ends (running : List (Invocation × Running)) (s : σ × List Launch) :
      ((next m.logging running s).1, (next m.logging running s).2.1) = next m running s.1 := rfl
  have same := FanOut.run_project (projects_logging (r := r) (m := m) (p := p)) ends p.invocations s
  exact congrArg (fun ran => Report.mk ran.1) same

/-- A run comes to rest where it has its report, with nothing that waits or runs. -/
theorem exists_rest_execute (r : Runner) (m : Machine σ) (p : Plan) (state : σ)
    (powered : ∀ n, r.processors? = some n → 0 < n) :
    ∃ f s, FanOut.Rests (r.work m.logging p) AnyEnd p.invocations (state, []) (f, s) ∧
      f.waiting = [] ∧ f.running = [] ∧ (r.execute m p state).1 = ⟨f.results⟩ := by
  have slot : 0 < (r.work m.logging p).limit := width_pos powered
  obtain ⟨f, s, rests, noneWaits, noneRuns, ran⟩ :=
    FanOut.exists_rest_run slot (next m.logging) p.invocations (state, [])
  refine ⟨f, s, rests.mono ?_, noneWaits, noneRuns, ?_⟩
  · intro running s e h
    exact ⟨_, _, _, h.symm⟩
  · rw [← execute_logging r m p (state, []), execute, ran]

/-- Processes were asked for in the order of the plan, each of them once, and no more of them run
than may. -/
structure InSlots (r : Runner) (p : Plan) (asked : List Launch) (f : PlanRun) : Prop where
  inOrder : asked <+: p.invocations.map (r.launch p.environment)
  once : (f.running.map (·.1) ++ f.finished.map (·.1)).Perm (List.range asked.length)
  numbered : FanOut.Numbered p.invocations (·.1) (·.invocation) f
  bounded : f.running.length ≤ r.limits.parallelism r.processors?

private theorem inSlots_of_moves {f : PlanRun} {s : σ × List Launch}
    (concurrent : p.concurrent = true)
    (moves : FanOut.Moves (r.work m.logging p) AnyEnd
      (FanOut.ofJobs p.invocations, (state, [])) (f, s)) : r.InSlots p s.2 f := by
  have inTurn := moves.inTurn logs_work (fun b => by simp [work, concurrent]) rfl
  refine ⟨?_, inTurn.once moves, moves.numbered tells_logging, ?_⟩
  · rw [inTurn.asked]
    have first := List.take_prefix s.2.length p.invocations
    exact first.map _
  · rw [← width_of_concurrent concurrent]
    exact moves.capped

/-- The processes of a plan that are run side by side, whichever of them ends next and whatever
becomes of it, keep to their slots. Wherever the run waits, as many of them run as may or as have
not ended. The limit is never zero, so the run waits for nothing else, and comes to its report. -/
theorem slots_are_bounded_and_filled (r : Runner) (m : Machine σ) (p : Plan) (state : σ)
    (concurrent : p.concurrent = true) (powered : ∀ n, r.processors? = some n → 0 < n) :
    0 < r.limits.parallelism r.processors? ∧
    (∀ f s, FanOut.Moves (r.work m.logging p) AnyEnd
      (FanOut.ofJobs p.invocations, (state, [])) (f, s) → r.InSlots p s.2 f) ∧
    (∀ f s, FanOut.Rests (r.work m.logging p) AnyEnd p.invocations (state, []) (f, s) →
      r.InSlots p s.2 f ∧
      f.running.length =
        min (r.limits.parallelism r.processors?) (p.invocations.length - f.finished.length) ∧
      (f.finished.length < p.invocations.length → f.running ≠ [])) ∧
    ∃ f s, FanOut.Rests (r.work m.logging p) AnyEnd p.invocations (state, []) (f, s) ∧
      f.finished.length = p.invocations.length ∧ (r.execute m p state).1 = ⟨f.results⟩ := by
  have slot : 0 < r.limits.parallelism r.processors? :=
    width_of_concurrent concurrent ▸ width_pos powered
  refine ⟨slot, fun f s => inSlots_of_moves concurrent, fun f s rests => ?_, ?_⟩
  · have busy : f.running.length = min (r.width p) (p.invocations.length - f.finished.length) :=
      rests.busy
    rw [width_of_concurrent concurrent] at busy
    refine ⟨inSlots_of_moves concurrent rests.moves, busy, fun unfinished idle => ?_⟩
    rw [idle, List.length_nil] at busy
    omega
  · obtain ⟨f, s, rests, noneWaits, noneRuns, report⟩ := exists_rest_execute r m p state powered
    have counted := rests.moves.numbers.length_eq
    rw [FanOut.numbers_ofJobs] at counted
    exact ⟨f, s, rests, by simpa [FanOut.numbers, noneWaits, noneRuns] using counted, report⟩

/-- Two processors and no other limit: of three processes the second ends first. -/
theorem slots_are_bounded_and_filled_scripted :
    let r : Runner := { root := ⟨"/p"⟩, limits := {}, processors? := some 2 }
    let invocation (name : String) : Invocation :=
      { program := "bundle", args := [name], entrypoints := [⟨name⟩] }
    let p : Plan := {
      strategy := .parallelCompilation, environment := ⟨"test"⟩, concurrent := true
      invocations := ["a", "b", "c"].map invocation }
    let m := (Machine.scripted fun _ => .stopped 10).logging
    let begun := r.begin m p ((0, []), [])
    let after := r.complete m p begun.1 1 (.stopped 10) begun.2
    r.InSlots p after.2.2 after.1 ∧ after.1.finished.length = 1 ∧ after.1.running.length = 2 := by
  intro r invocation p m begun after
  obtain ⟨-, -, resting, -⟩ := slots_are_bounded_and_filled r (.scripted fun _ => .stopped 10) p
    (0, []) rfl (by simp [r])
  have two : begun.1.running.length = 2 := rfl
  have running : begun.1.running ≠ [] := List.ne_nil_of_length_eq_add_one two
  have rests : FanOut.Rests (r.work m p) AnyEnd p.invocations ((0, []), []) after :=
    FanOut.Rests.complete .begin running ⟨1, .stopped 10, begun.2.1, rfl⟩
  obtain ⟨inSlots, busy, -⟩ := resting after.1 after.2 rests
  have one : after.1.finished.length = 1 := by rfl
  have left : p.invocations.length - after.1.finished.length = 2 := by rw [one]; rfl
  exact ⟨inSlots, one, busy.trans (by rw [left]; rfl)⟩

end Runner

end AssetWatch
