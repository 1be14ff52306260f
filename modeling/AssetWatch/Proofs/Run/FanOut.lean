import AssetWatch.Run.FanOut
import Mathlib.Data.List.Perm.Basic
import Mathlib.Logic.Relation

/-!
# Progress of a fan-out

All that a fan-out does comes down to three moves: the first job that waits is started, it is
refused, or a running job ends. Whichever running job ends next, no job is lost and none is done
twice, a free slot never stays empty while a job waits, and the results come in the order of the
jobs.
-/

namespace AssetWatch

/-- Which of the running jobs may end next, with what result, and the state after it. -/
abbrev Endings (ι β σ : Type) := List ι → σ → (Nat × (ι → β)) × σ → Prop

namespace FanOut

variable {α ι β σ : Type} {w : Work α ι β σ} {ends : Endings ι β σ}
  {next : List ι → σ → (Nat × (ι → β)) × σ} {f g : FanOut α ι β} {state state' : σ}
  {jobs : List α}

/-! ## Moves -/

inductive Move (w : Work α ι β σ) (ends : Endings ι β σ) :
    FanOut α ι β × σ → FanOut α ι β × σ → Prop
  | start {f : FanOut α ι β} {state state' : σ} {i : Nat} {a : α} {rest : List (Nat × α)} {job : ι}
      (waits : f.waiting = (i, a) :: rest) (free : f.running.length < w.limit)
      (started : w.start a state = (.inl job, state')) :
      Move w ends (f, state) ({ f with waiting := rest, running := f.running ++ [(i, job)] }, state')
  | refuse {f : FanOut α ι β} {state state' : σ} {i : Nat} {a : α} {rest : List (Nat × α)} {b : β}
      (waits : f.waiting = (i, a) :: rest) (free : f.running.length < w.limit)
      (refused : w.start a state = (.inr b, state')) :
      Move w ends (f, state)
        (({ f with waiting := rest }.settle w i b state').1,
          ({ f with waiting := rest }.settle w i b state').2)
  | complete {f : FanOut α ι β} {state state' : σ} {position number : Nat} {result : ι → β} {job : ι}
      (found : f.job? position = some (number, job))
      (ended : ends (f.running.map (·.2)) state ((position, result), state')) :
      Move w ends (f, state)
        (({ f with running := f.running.eraseIdx (position % f.running.length) }.settle w number
            (result job) state').1,
          ({ f with running := f.running.eraseIdx (position % f.running.length) }.settle w number
            (result job) state').2)

abbrev Moves (w : Work α ι β σ) (ends : Endings ι β σ) := Relation.ReflTransGen (Move w ends)

/-- What each move preserves is preserved by any number of them. -/
theorem Moves.preserve {P : FanOut α ι β × σ → Prop}
    (step : ∀ {s s'}, Move w ends s s' → P s → P s') {s s' : FanOut α ι β × σ}
    (h : Moves w ends s s') (hs : P s) : P s' := by
  induction h with
  | refl => exact hs
  | tail _ hm ih => exact step hm ih

/-- Where more endings are possible, at least the same moves are. -/
theorem Moves.mono {ends' : Endings ι β σ} (le : ∀ running state e, ends running state e →
    ends' running state e) {s s' : FanOut α ι β × σ} (h : Moves w ends s s') :
    Moves w ends' s s' := by
  refine Relation.ReflTransGen.mono (fun _ _ move => ?_) _ _ h
  cases move with
  | start waits free started => exact .start waits free started
  | refuse waits free refused => exact .refuse waits free refused
  | complete found ended => exact .complete found (le _ _ _ ended)

theorem settle_of_goesOn {number : Nat} {b : β} (goesOn : w.halts b = false) :
    f.settle w number b state =
      ({ f with finished := (number, b) :: f.finished }, w.note b state) := by
  simp only [settle, goesOn, Bool.false_eq_true, if_false]

private theorem moves_fill (waiting : List (Nat × α)) (f : FanOut α ι β) (state : σ) :
    Moves w ends ({ f with waiting }, state) (fill w waiting f state) := by
  induction waiting generalizing f state with
  | nil => exact .refl
  | cons first rest ih =>
    obtain ⟨i, a⟩ := first
    unfold fill
    split
    · rename_i free
      cases hs : w.start a state with
      | mk outcome state' =>
        cases outcome with
        | inl job =>
          exact .head (.start rfl free hs) (ih { f with running := f.running ++ [(i, job)] } state')
        | inr b =>
          have refused : Move w ends ({ f with waiting := (i, a) :: rest }, state)
            ({ f with waiting := rest }.settle w i b state') := .refuse rfl free hs
          simp only
          split
          · exact .single refused
          · rename_i goesOn
            rw [settle_of_goesOn (Bool.eq_false_iff.2 goesOn)] at refused ⊢
            exact .head refused (ih { f with waiting := rest, finished := (i, b) :: f.finished } _)
    · exact .refl

theorem moves_refill : Moves w ends (f, state) (f.refill w state) := moves_fill f.waiting f state

private theorem exists_job? (running : f.running ≠ []) (position : Nat) :
    ∃ number job, f.job? position = some (number, job) := by
  have inside := Nat.mod_lt position (List.length_pos_of_ne_nil running)
  exact ⟨_, _, List.getElem?_eq_getElem inside⟩

theorem moves_complete {position : Nat} {result : ι → β} (running : f.running ≠ [])
    (ended : ends (f.running.map (·.2)) state ((position, result), state')) :
    Moves w ends (f, state) (f.complete w position result state') := by
  obtain ⟨number, job, found⟩ := exists_job? running position
  simp only [complete, found]
  exact .head (.complete found ended) moves_refill

private theorem moves_steps (count : Nat) (f : FanOut α ι β) (state : σ) :
    Moves w (next · · = ·) (f, state) (f.steps w next count state) := by
  induction count generalizing f state with
  | zero => exact .refl
  | succ count ih =>
    unfold steps
    split
    · exact .refl
    · rename_i notDone
      have running : f.running ≠ [] := by simpa [isDone] using notDone
      exact (moves_complete running rfl).trans (ih ..)

/-- A run is made of moves, and its results are those of where they lead. -/
theorem moves_run (next : List ι → σ → (Nat × (ι → β)) × σ) (jobs : List α) (state : σ) :
    ∃ g : FanOut α ι β, Moves w (next · · = ·) (ofJobs jobs, state) (g, (run w next jobs state).2) ∧
      (run w next jobs state).1 = g.results :=
  ⟨_, moves_refill.trans (moves_steps ..), rfl⟩

/-- Without jobs there are no results, and nothing happens. -/
theorem run_nil (next : List ι → σ → (Nat × (ι → β)) × σ) (state : σ) :
    run w next [] state = ([], state) := by
  simp [run, begin, refill, fill, ofJobs, steps, results]

/-! ## No job is lost -/

def numbers (f : FanOut α ι β) : List Nat :=
  f.waiting.map (·.1) ++ f.running.map (·.1) ++ f.finished.map (·.1)

theorem numbers_ofJobs : (ofJobs jobs : FanOut α ι β).numbers = List.range jobs.length := by
  simp [ofJobs, numbers, List.range_eq_range', List.mapIdx_eq_zipIdx_map, Function.comp_def]

private theorem count_numbers (f : FanOut α ι β) (n : Nat) :
    f.numbers.count n = (f.waiting.map (·.1)).count n + (f.running.map (·.1)).count n +
      (f.finished.map (·.1)).count n := by
  simp only [numbers, List.count_append]

/-- A result takes its number out of nowhere; what is skipped only changes its place. -/
theorem numbers_settle (f : FanOut α ι β) (number : Nat) (b : β) (state : σ) :
    (f.settle w number b state).1.numbers.Perm (number :: f.numbers) := by
  unfold settle
  dsimp only
  split <;> refine List.perm_iff_count.2 fun n => ?_
  · simp only [count_numbers, List.count_cons, List.map_nil, List.count_nil, List.map_append,
      List.map_reverse, List.map_map, Function.comp_def, List.map_cons, List.count_append,
      List.count_reverse]
    omega
  · simp only [count_numbers, List.count_cons, List.map_cons]
    omega

theorem Move.numbers (h : Move w ends (f, state) (g, state')) : g.numbers.Perm f.numbers := by
  cases h with
  | start waits =>
    refine List.perm_iff_count.2 fun n => ?_
    simp only [count_numbers, waits, List.map_append, List.map_cons, List.map_nil,
      List.count_append, List.count_cons, List.count_nil]
    omega
  | refuse waits =>
    refine (numbers_settle ..).trans ?_
    simp only [FanOut.numbers, waits, List.map_cons, List.cons_append, List.Perm.refl]
  | @complete f state state' position number result job found ended =>
    refine (numbers_settle ..).trans ?_
    obtain ⟨inside, here⟩ := List.getElem?_eq_some_iff.1 found
    have running := List.getElem_cons_eraseIdx_perm inside
    rw [here] at running
    refine List.perm_iff_count.2 fun n => ?_
    have counted := (running.map (·.1)).count_eq n
    simp only [count_numbers, List.map_cons, List.count_cons] at counted ⊢
    omega

/-- Every job waits, runs or has ended, and none is in two places. -/
theorem Moves.numbers (h : Moves w ends (f, state) (g, state')) : g.numbers.Perm f.numbers :=
  Moves.preserve (P := fun s => s.1.numbers.Perm f.numbers) (fun hm ih => hm.numbers.trans ih) h
    (.refl _)

/-- The job in front of those that wait is the next in the order of the numbers. -/
theorem next_of_waiting {count i : Nat} {a : α} {rest : List (Nat × α)}
    (ahead : f.waiting = (jobs.mapIdx fun i a => (i, a)).drop count)
    (waits : f.waiting = (i, a) :: rest) :
    i = count ∧ jobs[count]? = some a ∧ rest = (jobs.mapIdx fun i a => (i, a)).drop (count + 1) := by
  rw [waits] at ahead
  have first : (jobs.mapIdx fun i a => (i, a))[count]? = some (i, a) := by
    rw [← List.head?_drop, ← ahead]
    rfl
  rw [List.getElem?_mapIdx, Option.map_eq_some_iff] at first
  obtain ⟨_, found, same⟩ := first
  obtain ⟨rfl, rfl⟩ := Prod.mk.inj same
  exact ⟨rfl, found, by rw [← List.tail_drop, ← ahead]; rfl⟩

/-! ## No slot stays free -/

def Filled (w : Work α ι β σ) (f : FanOut α ι β) : Prop :=
  f.waiting = [] ∨ w.limit ≤ f.running.length

private theorem filled_fill (waiting : List (Nat × α)) (f : FanOut α ι β) (state : σ) :
    (fill w waiting f state).1.Filled w := by
  induction waiting generalizing f state with
  | nil => exact .inl rfl
  | cons first rest ih =>
    obtain ⟨i, a⟩ := first
    unfold fill
    split
    · cases hs : w.start a state with
      | mk outcome state' =>
        cases outcome with
        | inl job => exact ih ..
        | inr b =>
          simp only
          split
          · rename_i halts
            simp [Filled, settle, halts]
          · exact ih ..
    · rename_i full
      exact .inr (Nat.le_of_not_lt full)

private theorem filled_complete {position : Nat} {result : ι → β} (running : f.running ≠ []) :
    (f.complete w position result state).1.Filled w := by
  obtain ⟨number, job, found⟩ := exists_job? running position
  simp only [complete, found]
  exact filled_fill ..

def pending (f : FanOut α ι β) : Nat := f.waiting.length + f.running.length

private theorem pending_settle (f : FanOut α ι β) (number : Nat) (b : β) (state : σ) :
    (f.settle w number b state).1.pending ≤ f.pending := by
  unfold settle
  dsimp only
  split <;> simp [pending]

theorem Move.pending (h : Move w ends (f, state) (g, state')) : g.pending ≤ f.pending := by
  cases h with
  | start waits =>
    simp only [FanOut.pending, waits, List.length_append, List.length_cons, List.length_nil]
    omega
  | refuse waits =>
    refine Nat.le_trans (pending_settle ..) ?_
    simp only [FanOut.pending, waits, List.length_cons]
    omega
  | complete =>
    refine Nat.le_trans (pending_settle ..) ?_
    simp only [FanOut.pending]
    exact Nat.add_le_add_left (List.length_eraseIdx_le ..) _

theorem Moves.pending (h : Moves w ends (f, state) (g, state')) : g.pending ≤ f.pending :=
  Moves.preserve (P := fun s => s.1.pending ≤ f.pending) (fun hm ih => Nat.le_trans hm.pending ih) h
    (Nat.le_refl _)

private theorem pending_refill (f : FanOut α ι β) (state : σ) :
    (f.refill w state).1.pending ≤ f.pending := by
  have moves : Moves w (fun _ _ _ => False) (f, state) (f.refill w state) := moves_refill
  exact Moves.pending moves

private theorem pending_complete {position : Nat} {result : ι → β} (running : f.running ≠ []) :
    (f.complete w position result state).1.pending < f.pending := by
  obtain ⟨number, job, found⟩ := exists_job? running position
  simp only [complete, found]
  have inside := Nat.mod_lt position (List.length_pos_of_ne_nil running)
  refine Nat.lt_of_le_of_lt (pending_refill ..) (Nat.lt_of_le_of_lt (pending_settle ..) ?_)
  simp only [pending, List.length_eraseIdx_of_lt inside]
  omega

/-- A fan-out with a slot ends once as many jobs have ended as had no result. -/
theorem steps_done (slot : 0 < w.limit) {count : Nat} (filled : f.Filled w)
    (enough : f.pending ≤ count) :
    (f.steps w next count state).1.waiting = [] ∧ (f.steps w next count state).1.running = [] := by
  induction count generalizing f state with
  | zero =>
    simp only [pending, Nat.le_zero, Nat.add_eq_zero_iff, List.length_eq_zero_iff] at enough
    exact enough
  | succ count ih =>
    unfold steps
    split
    · rename_i done
      have idle : f.running = [] := by simpa [isDone] using done
      rcases filled with none | full
      · exact ⟨none, idle⟩
      · rw [idle] at full
        exact absurd full (Nat.not_le_of_lt slot)
    · rename_i notDone
      have running : f.running ≠ [] := by simpa [isDone] using notDone
      refine ih (filled_complete running) ?_
      exact Nat.le_of_lt_succ (Nat.lt_of_lt_of_le (pending_complete running) enough)

private theorem pending_ofJobs : (ofJobs jobs : FanOut α ι β).pending = jobs.length := by
  simp [ofJobs, pending]

theorem perm_results (f : FanOut α ι β) : f.results.Perm (f.finished.map (·.2)) :=
  (List.mergeSort_perm ..).map _

/-! ## Waiting for a job to end -/

/-- Where a run waits: when its first jobs were started, and again whenever a job has ended. -/
inductive Rests (w : Work α ι β σ) (ends : Endings ι β σ) (jobs : List α) (state : σ) :
    FanOut α ι β × σ → Prop
  | begin : Rests w ends jobs state (begin w jobs state)
  | complete {f : FanOut α ι β} {now now' : σ} {position : Nat} {result : ι → β}
      (rests : Rests w ends jobs state (f, now)) (running : f.running ≠ [])
      (ended : ends (f.running.map (·.2)) now ((position, result), now')) :
      Rests w ends jobs state (f.complete w position result now')

theorem Rests.moves {s : FanOut α ι β × σ} (h : Rests w ends jobs state s) :
    Moves w ends (ofJobs jobs, state) s := by
  induction h with
  | begin => exact moves_refill
  | complete rests running ended ih => exact ih.trans (moves_complete running ended)

theorem Rests.filled {s : FanOut α ι β × σ} (h : Rests w ends jobs state s) : s.1.Filled w := by
  cases h with
  | begin => exact filled_fill ..
  | complete rests running ended => exact filled_complete running

theorem Rests.steps {next : List ι → σ → (Nat × (ι → β)) × σ} (count : Nat)
    (h : Rests w (next · · = ·) jobs state (f, state')) :
    Rests w (next · · = ·) jobs state (f.steps w next count state') := by
  induction count generalizing f state' with
  | zero => exact h
  | succ count ih =>
    unfold FanOut.steps
    split
    · exact h
    · rename_i notDone
      have running : f.running ≠ [] := by simpa [isDone] using notDone
      exact ih (.complete h running rfl)

theorem Rests.mono {ends' : Endings ι β σ} (le : ∀ running state e, ends running state e →
    ends' running state e) {s : FanOut α ι β × σ} (h : Rests w ends jobs state s) :
    Rests w ends' jobs state s := by
  induction h with
  | begin => exact .begin
  | complete rests running ended ih => exact .complete ih running (le _ _ _ ended)

/-- A run comes to rest with nothing that waits or runs, and has the results of that. -/
theorem exists_rest_run (slot : 0 < w.limit) (next : List ι → σ → (Nat × (ι → β)) × σ)
    (jobs : List α) (state : σ) : ∃ g state', Rests w (next · · = ·) jobs state (g, state') ∧
      g.waiting = [] ∧ g.running = [] ∧ run w next jobs state = (g.results, state') := by
  let first := begin w jobs state
  let last := first.1.steps w next jobs.length first.2
  have begun : Moves w (next · · = ·) (ofJobs jobs, state) first := moves_refill
  have enough : first.1.pending ≤ jobs.length := pending_ofJobs ▸ Moves.pending begun
  have done : last.1.waiting = [] ∧ last.1.running = [] := steps_done slot (filled_fill ..) enough
  exact ⟨last.1, last.2, Rests.steps jobs.length .begin, done.1, done.2, rfl⟩

/-- A run ends with one result for every job. -/
theorem exists_run (slot : 0 < w.limit) (next : List ι → σ → (Nat × (ι → β)) × σ) (jobs : List α)
    (state : σ) : ∃ g state', Moves w (next · · = ·) (ofJobs jobs, state) (g, state') ∧
      (g.finished.map (·.1)).Perm (List.range jobs.length) ∧
      run w next jobs state = (g.results, state') := by
  obtain ⟨g, state', rests, noneWaits, noneRuns, ran⟩ := exists_rest_run slot next jobs state
  have once : g.numbers.Perm (List.range jobs.length) := numbers_ofJobs ▸ Moves.numbers rests.moves
  refine ⟨g, state', rests.moves, ?_, ran⟩
  simpa [numbers, noneWaits, noneRuns] using once

/-! ## Results come in the order of the jobs -/

/-- If each result tells something that is settled by its number, and the numbers are those of the
jobs, once each, then the results tell it in the order of the jobs. -/
theorem map_results {γ : Type} {value : Nat → α → γ} (told : β → γ)
    (once : (f.finished.map (·.1)).Perm (List.range jobs.length))
    (values : ∀ e ∈ f.finished, jobs[e.1]?.map (value e.1) = some (told e.2)) :
    f.results.map told = jobs.mapIdx value := by
  let sorted := f.finished.mergeSort fun a b => a.1 ≤ b.1
  have perm : sorted.Perm f.finished := List.mergeSort_perm ..
  have ordered : (sorted.map (·.1)).Pairwise (· ≤ ·) := by
    have ordered : sorted.Pairwise fun a b => decide (a.1 ≤ b.1) = true :=
      List.pairwise_mergeSort (by simp; omega) (by simp; omega) f.finished
    exact List.pairwise_map.2 (ordered.imp (by simp))
  have counted : sorted.map (·.1) = List.range jobs.length :=
    ((perm.map _).trans once).eq_of_pairwise (fun _ _ _ _ => Nat.le_antisymm) ordered
      (List.pairwise_le_range)
  have same : (f.results.map told).map some = (jobs.mapIdx value).map some :=
    calc (f.results.map told).map some
        = sorted.map (fun e => some (told e.2)) := by simp [results, sorted]
      _ = sorted.map (fun e => jobs[e.1]?.map (value e.1)) :=
          List.map_congr_left fun e he => (values e (perm.mem_iff.1 he)).symm
      _ = (sorted.map (·.1)).map (fun i => jobs[i]?.map (value i)) := by simp
      _ = (jobs.mapIdx value).map some := by
          rw [counted]
          refine List.ext_getElem? fun i => ?_
          by_cases inside : i < jobs.length <;> simp [inside]
  exact (List.map_inj_right fun _ _ => Option.some.inj).1 same

end FanOut

end AssetWatch
