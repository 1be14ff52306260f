import AssetWatch.Proofs.Run.Agreement
import AssetWatch.Proofs.Run.Sequence
import AssetWatch.Proofs.Run.Slots

/-!
# Giving up

The processes of a sequential plan are run one after the other, however each of them behaves. A run
that gives up does so behind the first process that does not succeed, whatever it failed for. Up to
there it tells what a run tells that does not give up.
-/

namespace AssetWatch

inductive Behaviour
  /-- it cannot be started -/
  | refused (failure : SystemFailure)
  /-- it ends by itself after so many milliseconds -/
  | ends (ending : Host.Ending) (ms : Nat)
  | endless

namespace Behaviour

variable {b : Behaviour} {limitMs : Option Nat} {child : Child}

def RunsAt (time : Nat) : Behaviour → Prop
  | .refused _ => False
  | .ends _ ms => time ≤ ms
  | .endless => True

def Outlasts (b : Behaviour) (limitMs : Option Nat) : Prop :=
  ∃ limit, limitMs = some limit ∧ b.RunsAt limit

def Succeeds (b : Behaviour) (limitMs : Option Nat) : Prop :=
  ∃ ms, b = .ends (.exited 0) ms ∧ ∀ limit, limitMs = some limit → ms < limit

inductive Becomes (limitMs : Option Nat) : Behaviour → Child → Prop
  | refuse {failure : SystemFailure} : Becomes limitMs (.refused failure) (.refused failure)
  | finish {ending : Host.Ending} {ms : Nat} (inTime : ∀ limit, limitMs = some limit → ms < limit) :
    Becomes limitMs (.ends ending ms) (.ended ending ms)
  | stop {b : Behaviour} {limit ms : Nat} (limited : limitMs = some limit) (late : b.RunsAt limit)
    (upTo : limit ≤ ms) : Becomes limitMs b (.stopped ms)

theorem Becomes.timedOut_iff (h : b.Becomes limitMs child) :
    child.outcome = .timedOut ↔ b.Outlasts limitMs := by
  cases h with
  | refuse => simp [Child.outcome, Outlasts, RunsAt]
  | @finish ending ms inTime =>
    refine iff_of_false ?_ ?_
    · cases ending with
      | exited status => rw [Child.outcome]; split <;> simp
      | killed signal => simp [Child.outcome]
    · rintro ⟨limit, limited, late⟩
      exact Nat.not_le.2 (inTime limit limited) late
  | stop limited late => exact iff_of_true rfl ⟨_, limited, late⟩

theorem Becomes.succeeded_iff (h : b.Becomes limitMs child) :
    child.outcome = .succeeded ↔ b.Succeeds limitMs := by
  cases h with
  | refuse => simp [Child.outcome, Succeeds]
  | @finish ending ms inTime =>
    cases ending with
    | exited status =>
      rw [Child.outcome]
      split
      · rename_i zero
        exact iff_of_true rfl ⟨ms, by rw [zero], inTime⟩
      · simp [Succeeds, *]
    | killed signal => simp [Child.outcome, Succeeds]
  | stop limited late =>
    refine iff_of_false (by simp [Child.outcome]) ?_
    rintro ⟨ms, rfl, inTime⟩
    exact Nat.not_le.2 (inTime _ limited) late

end Behaviour

def Behaviour.Yields (b : Behaviour) (limitMs : Option Nat) (result : RunResult) : Prop :=
  ∃ child, b.Becomes limitMs child ∧ result = Runner.resultOf result.invocation child

def Machine.runAlone {σ : Type} (m : Machine σ) (launch : Launch) (limitMs : Option Nat)
    (state : σ) : Child × σ :=
  match m.start launch limitMs state with
  | (.ok process, state) =>
    let ((_, child), state) := m.next [{ launch, process }] state
    (child, state)
  | (.error failure, state) => (.refused failure, state)

/-- Processes that run alone behave as is settled by how many were asked for before. One that never
ends has to be stopped. Taking down what became of them starts none. -/
structure Machine.Behaves {σ : Type} (m : Machine σ) (behaviour : Nat → Behaviour)
    (started : σ → Nat) : Prop where
  becomes : ∀ launch {limitMs state}, (behaviour (started state) = .endless → limitMs ≠ none) →
    (behaviour (started state)).Becomes limitMs (m.runAlone launch limitMs state).1
  counted : ∀ launch limitMs state,
    started (m.runAlone launch limitMs state).2 = started state + 1
  recorded : ∀ kind outcome ms state, started (m.record kind outcome ms state) = started state

/-- What did not succeed did so at some process first. -/
theorem Report.exists_first_failure {report : Report} (h : report.isSuccess = false) :
    ∃ before failure after, report.results = before ++ failure :: after ∧
      (∀ result ∈ before, result.outcome.isSuccess = true) ∧ failure.outcome.isSuccess = false := by
  obtain ⟨result, member, fails⟩ := List.all_eq_false.1 h
  have some : (report.results.find? (!·.outcome.isSuccess)).isSome :=
    List.find?_isSome.2 ⟨result, member, by simpa using fails⟩
  obtain ⟨failure, found⟩ := Option.isSome_iff_exists.1 some
  obtain ⟨fails, before, after, split, succeed⟩ := List.find?_eq_some_iff_append.1 found
  exact ⟨before, failure, after, split, by simpa using succeed, by simpa using fails⟩

namespace Runner

variable {σ : Type} {r : Runner} {m : Machine σ} {p : Plan} {behaviour : Nat → Behaviour}
  {started : σ → Nat}

def failingFast (r : Runner) (failFast : Bool) : Runner :=
  { r with limits := { r.limits with failFast } }

private theorem single_work (i : Invocation) (state : σ) :
    FanOut.single (r.work m p) (next m) i state =
      let ran := m.runAlone (r.launch p.environment i) r.limitMs state
      (resultOf i ran.1, m.record p.strategy ran.1.outcome ran.1.durationMs ran.2) := by
  rcases h : m.start (r.launch p.environment i) r.limitMs state with ⟨_ | _, state'⟩ <;>
    simp [FanOut.single, work, start, next, resultOf, Machine.runAlone, h]

private theorem single_logging (i : Invocation) (s : σ × List Launch) :
    FanOut.single (r.work m.logging p) (next m.logging) i s =
      let ran := m.runAlone (r.launch p.environment i) r.limitMs s.1
      (resultOf i ran.1, (m.record p.strategy ran.1.outcome ran.1.durationMs ran.2,
        s.2 ++ [r.launch p.environment i])) := by
  rw [single_work]
  rcases h : m.start (r.launch p.environment i) r.limitMs s.1 with ⟨_ | _, state'⟩ <;>
    simp [Machine.runAlone, Machine.logging, h]

theorem limitMs_eq_none_iff : r.limitMs = none ↔ r.limits.timeoutSecs = 0 := by
  rw [limitMs, Option.map_eq_none_iff, ExecutionLimits.timeout?]
  split <;> simp [*]

private theorem width_of_sequential (sequential : p.concurrent = false) : r.width p = 1 := by
  simp [width, sequential]

theorem execute_sequential (sequential : p.concurrent = false) (state : σ) :
    r.execute m p state =
      (⟨(FanOut.sequence (r.work m p) (next m) p.invocations state).1⟩,
        (FanOut.sequence (r.work m p) (next m) p.invocations state).2) := by
  rw [execute, FanOut.run_eq_sequence (width_of_sequential sequential)]

/-- The work of a runner that does not give up is that of one that does, if nothing halts it. -/
theorem work_failingFast_false (sequential : p.concurrent = false) :
    (r.failingFast false).work m p = ((r.failingFast true).work m p).patient := by
  simp [Work.patient, work, width, failingFast, sequential]
  rfl

private theorem halts_failingFast_true (sequential : p.concurrent = false) (result : RunResult) :
    ((r.failingFast true).work m p).halts result = !result.outcome.isSuccess := by
  simp [work, failingFast, sequential]

/-- What results tell of the processes of a plan, of which so many were asked for. -/
structure Tells (r : Runner) (p : Plan) (behaviour : Nat → Behaviour) (asked : Nat)
    (results : List RunResult) : Prop where
  inOrder : results.map (·.invocation) = p.invocations
  yields : ∀ {n result}, results[n]? = some result → n < asked →
    (behaviour n).Yields r.limitMs result
  skipped : ∀ {n result}, results[n]? = some result → (result.outcome = .skipped ↔ asked ≤ n)
  succeeded : ∀ {n result}, results[n]? = some result →
    (result.outcome = .succeeded ↔ n < asked ∧ (behaviour n).Succeeds r.limitMs)
  timedOut : ∀ {n result}, results[n]? = some result →
    (result.outcome = .timedOut ↔ n < asked ∧ (behaviour n).Outlasts r.limitMs)
  unlimited : r.limits.timeoutSecs = 0 → ∀ result ∈ results, result.outcome ≠ .timedOut

/-- It is enough that each process that was asked for has its result, and the others are skipped. -/
theorem Tells.intro {asked : Nat} {results : List RunResult}
    (inOrder : results.map (·.invocation) = p.invocations)
    (settled : ∀ {n result}, results[n]? = some result →
      n < asked ∧ (behaviour n).Yields r.limitMs result ∨ asked ≤ n ∧ ∃ i, result = skip i) :
    r.Tells p behaviour asked results := by
  have timedOut {n : Nat} {result : RunResult} (h : results[n]? = some result) :
      result.outcome = .timedOut ↔ n < asked ∧ (behaviour n).Outlasts r.limitMs := by
    rcases settled h with ⟨first, child, becomes, same⟩ | ⟨behind, i, rfl⟩
    · rw [same]
      simp [resultOf, becomes.timedOut_iff, first]
    · simp [skip, Nat.not_lt.2 behind]
  refine ⟨inOrder, fun {n result} h first => ?_, fun {n result} h => ?_, fun {n result} h => ?_,
    timedOut, fun unlimited result h => ?_⟩
  · rcases settled h with ⟨-, yields⟩ | ⟨behind, -⟩
    · exact yields
    · exact absurd first (Nat.not_lt.2 behind)
  · rcases settled h with ⟨first, child, -, same⟩ | ⟨behind, i, rfl⟩
    · rw [same]
      exact iff_of_false (outcome_ne_skipped child) (Nat.not_le.2 first)
    · exact iff_of_true rfl behind
  · rcases settled h with ⟨first, child, becomes, same⟩ | ⟨behind, i, rfl⟩
    · rw [same]
      simp [resultOf, becomes.succeeded_iff, first]
    · simp [skip, Nat.not_lt.2 behind]
  · obtain ⟨n, found⟩ := List.mem_iff_getElem?.1 h
    rw [Ne, timedOut found]
    rintro ⟨-, limit, limited, -⟩
    rw [limitMs_eq_none_iff.2 unlimited] at limited
    cases limited

/-- Whether or not it gives up, a run tells what became of the processes it asked for. -/
theorem tells_execute {state : σ} (sequential : p.concurrent = false)
    (behaves : m.Behaves behaviour started) (fresh : started state = 0)
    (ends : r.limits.timeoutSecs = 0 → ∀ n, behaviour n ≠ .endless) :
    let ran := r.execute m.logging p (state, [])
    r.Tells p behaviour ran.2.2.length ran.1.results := by
  intro ran
  let single := FanOut.single (r.work m.logging p) (next m.logging)
  have alone (i : Invocation) (s : σ × List Launch) :
      (behaviour (started s.1)).Yields r.limitMs (single i s).1 ∧
      started (single i s).2.1 = started s.1 + 1 := by
    rw [show single i s = _ from single_logging i s]
    refine ⟨⟨_, behaves.becomes (r.launch p.environment i) ?_, rfl⟩, ?_⟩
    · exact fun endless unlimited => ends (limitMs_eq_none_iff.1 unlimited) _ endless
    · exact (behaves.recorded ..).trans (behaves.counted ..)
  have counted (i : Invocation) {s : σ × List Launch} (h : started s.1 = s.2.length) :
      started (single i s).2.1 = (single i s).2.2.length := by
    rw [(alone i s).2, h, show single i s = _ from single_logging i s]
    simp
  have passed (i : Invocation) (s : σ × List Launch) :
      started ((r.work m.logging p).passOver i s).1 = started s.1 := behaves.recorded ..
  have slot : 0 < (r.work m.logging p).limit :=
    Nat.lt_of_lt_of_eq Nat.one_pos (width_of_sequential sequential).symm
  have told : ran.1.results.map (·.invocation) = p.invocations :=
    FanOut.map_told_run slot tells_work
  have inTurn : ran = _ := execute_sequential sequential (state, [])
  have asked : started ran.2.1 = ran.2.2.length := by
    rw [inTurn]
    exact FanOut.keeps_sequence (I := fun s : σ × List Launch => started s.1 = s.2.length) counted
      (fun i s same => (passed i s).trans same) p.invocations fresh
  refine Tells.intro told fun {n result} h => ?_
  rw [← asked]
  rw [inTurn] at h ⊢
  have settled := FanOut.settled_sequence (fun n => (behaviour n).Yields r.limitMs)
    (fun s => started s.1) alone passed h
  rwa [fresh, Nat.zero_add] at settled

/-! ## Up to the first failure -/

private theorem log_single (i : Invocation) (s : σ × List Launch) :
    (FanOut.single (r.work m.logging p) (next m.logging) i s).2.2 =
      s.2 ++ [r.launch p.environment i] := by
  rw [single_logging]

private theorem execute_patient (sequential : p.concurrent = false) (state : σ) :
    (r.failingFast false).execute m p state =
      let w := ((r.failingFast true).work m p).patient
      (⟨(FanOut.sequence w (next m) p.invocations state).1⟩,
        (FanOut.sequence w (next m) p.invocations state).2) := by
  rw [execute_sequential sequential, work_failingFast_false sequential]

/-- A run that does not give up asks for every process. -/
theorem asked_patient (sequential : p.concurrent = false) (state : σ) :
    ((r.failingFast false).execute m.logging p (state, [])).2.2 =
      p.invocations.map (r.launch p.environment) := by
  rw [execute_patient sequential]
  exact FanOut.log_sequence_patient (·.2) log_single p.invocations (state, [])

private theorem execute_of_first_failure {state : σ} (sequential : p.concurrent = false)
    {before after : List RunResult} {failure : RunResult}
    (split : ((r.failingFast false).execute m.logging p (state, [])).1.results =
      before ++ failure :: after)
    (succeed : ∀ result ∈ before, result.outcome.isSuccess = true)
    (fails : failure.outcome.isSuccess = false) :
    let ran := (r.failingFast true).execute m.logging p (state, [])
    ran.1.results = before ++ failure :: (p.invocations.drop (before.length + 1)).map skip ∧
    ran.2.2 = (p.invocations.take (before.length + 1)).map (r.launch p.environment) := by
  intro ran
  rw [execute_patient sequential] at split
  rw [show ran = _ from execute_sequential sequential (state, [])]
  refine FanOut.sequence_of_first (·.2) log_single (fun _ _ => rfl) split (fun result h => ?_) ?_
  · rw [halts_failingFast_true sequential, succeed result h, Bool.not_true]
  · rw [halts_failingFast_true sequential, fails, Bool.not_false]

private theorem execute_of_isSuccess {state : σ} (sequential : p.concurrent = false)
    (success : ((r.failingFast false).execute m p state).1.isSuccess = true) :
    (r.failingFast true).execute m p state = (r.failingFast false).execute m p state := by
  rw [execute_patient sequential] at success ⊢
  rw [execute_sequential sequential, FanOut.sequence_of_forall fun result h => ?_]
  rw [halts_failingFast_true sequential, List.all_eq_true.1 success result h, Bool.not_true]

/-- Run one after the other, every process of a plan has a result, in the order of the plan, which
tells how it behaved. A run that gives up has the same results up to the first that is no success,
and asks for nothing behind it. -/
theorem fail_fast_stops_at_first_failure (r : Runner) (m : Machine σ) (p : Plan) (state : σ)
    (sequential : p.concurrent = false) (behaves : m.Behaves behaviour started)
    (fresh : started state = 0) (ends : r.limits.timeoutSecs = 0 → ∀ n, behaviour n ≠ .endless) :
    let ran (failFast : Bool) := (r.failingFast failFast).execute m.logging p (state, [])
    let report (failFast : Bool) := (ran failFast).1
    let asked (failFast : Bool) := (ran failFast).2.2
    (∀ failFast, report failFast = ((r.failingFast failFast).execute m p state).1 ∧
      r.Tells p behaviour (asked failFast).length (report failFast).results) ∧
    (∀ result ∈ (report false).results, result.outcome ≠ .skipped) ∧
    asked false = p.invocations.map (r.launch p.environment) ∧
    (∀ before failure after, (report false).results = before ++ failure :: after →
      (∀ result ∈ before, result.outcome.isSuccess = true) → failure.outcome.isSuccess = false →
      (report true).results = before ++ failure :: (p.invocations.drop (before.length + 1)).map
        (fun invocation => { invocation, outcome := .skipped, durationMs := 0 }) ∧
      asked true = (p.invocations.take (before.length + 1)).map (r.launch p.environment)) ∧
    ((report false).isSuccess = true → ran true = ran false) ∧
    (report true).isSuccess = (report false).isSuccess := by
  intro ran report asked
  have tells (failFast : Bool) : r.Tells p behaviour (asked failFast).length
      (report failFast).results := by
    obtain ⟨inOrder, yields, skipped, succeeded, timedOut, unlimited⟩ :=
      tells_execute (r := r.failingFast failFast) sequential behaves fresh ends
    exact ⟨inOrder, yields, skipped, succeeded, timedOut, unlimited⟩
  have all : asked false = p.invocations.map (r.launch p.environment) :=
    asked_patient sequential state
  refine ⟨fun failFast => ⟨execute_logging .., tells failFast⟩, fun result h skipped => ?_, all,
    fun before failure after => execute_of_first_failure sequential,
    execute_of_isSuccess sequential, ?_⟩
  · obtain ⟨n, found⟩ := List.mem_iff_getElem?.1 h
    obtain ⟨inside, -⟩ := List.getElem?_eq_some_iff.1 found
    have behind : (asked false).length ≤ n := ((tells false).skipped found).1 skipped
    rw [all, List.length_map, ← (tells false).inOrder, List.length_map] at behind
    exact Nat.not_le.2 inside behind
  · cases success : (report false).isSuccess with
    | true =>
      have same : ran true = ran false := execute_of_isSuccess sequential success
      exact (congrArg (·.1.isSuccess) same).trans success
    | false =>
      obtain ⟨before, failure, after, split, succeed, fails⟩ := Report.exists_first_failure success
      obtain ⟨results, -⟩ := execute_of_first_failure sequential split succeed fails
      rw [Report.isSuccess, results]
      simp [fails]

end Runner

/-- What becomes of a process. One without an end that nothing stops counts as killed. -/
def Behaviour.child : Behaviour → Option Nat → Child
  | .refused failure, _ => .refused failure
  | .ends ending ms, none => .ended ending ms
  | .ends ending ms, some limit => if ms < limit then .ended ending ms else .stopped limit
  | .endless, some limit => .stopped limit
  | .endless, none => .ended (.killed 9) 0

private theorem Behaviour.becomes_child {b : Behaviour} {limitMs : Option Nat}
    (ends : b = .endless → limitMs ≠ none) : b.Becomes limitMs (b.child limitMs) := by
  cases b with
  | refused => exact .refuse
  | ends ending ms =>
    cases limitMs with
    | none => exact .finish nofun
    | some limit =>
      rw [child]
      split
      · exact .finish (by rintro _ ⟨⟩; assumption)
      · rename_i late
        exact .stop rfl (Nat.not_lt.1 late) (Nat.le_refl _)
  | endless =>
    cases limitMs with
    | none => exact absurd rfl (ends rfl)
    | some limit => exact .stop rfl trivial (Nat.le_refl _)

/-- A machine on which processes behave as is settled by when they were asked for; the state is the
limits that were given. -/
def Machine.enacting (behaviour : Nat → Behaviour) : Machine (List (Option Nat)) where
  start _ limitMs given :=
    let started := match behaviour given.length with
      | .refused failure => .error failure
      | _ => .ok given.length
    (started, given ++ [limitMs])
  next running given :=
    let child := match running.head? with
      | some r => (behaviour r.process).child (given[r.process]?.getD none)
      | none => .stopped 0
    ((0, child), given)

private theorem Machine.runAlone_enacting (behaviour : Nat → Behaviour) (launch : Launch)
    (limitMs : Option Nat) (given : List (Option Nat)) :
    (enacting behaviour).runAlone launch limitMs given =
      ((behaviour given.length).child limitMs, given ++ [limitMs]) := by
  cases h : behaviour given.length <;> simp [runAlone, enacting, h, Behaviour.child]

private theorem Machine.record_enacting (behaviour : Nat → Behaviour) (kind : StrategyKind)
    (outcome : Outcome) (ms : Nat) (given : List (Option Nat)) :
    (enacting behaviour).record kind outcome ms given = given := rfl

private theorem Machine.behaves_enacting (behaviour : Nat → Behaviour) :
    (enacting behaviour).Behaves behaviour List.length where
  becomes launch _ _ ends := by
    rw [runAlone_enacting]
    exact Behaviour.becomes_child ends
  counted launch limitMs given := by
    rw [runAlone_enacting, List.length_append]
    rfl
  recorded _ _ _ _ := rfl

/-- The second process of three has to be stopped. -/
theorem Runner.fail_fast_stops_at_first_failure_enacted :
    let r : Runner := { root := ⟨"/p"⟩, limits := { timeoutSecs := 1 } }
    let invocation (name : String) : Invocation :=
      { program := "bundle", args := [name], entrypoints := [⟨name⟩] }
    let p : Plan := {
      strategy := .singleExecution, environment := ⟨"test"⟩, concurrent := false
      invocations := ["a", "b", "c"].map invocation }
    let behaviour (n : Nat) : Behaviour := if n = 1 then .endless else .ends (.exited 0) (n + 5)
    let ran := (r.failingFast true).execute (Machine.enacting behaviour).logging p ([], [])
    ran.1.results = [⟨invocation "a", .succeeded, 5⟩, ⟨invocation "b", .timedOut, 1000⟩,
      ⟨invocation "c", .skipped, 0⟩] ∧
    ran.2.2 = [invocation "a", invocation "b"].map (r.launch p.environment) := by
  intro r invocation p behaviour ran
  obtain ⟨-, -, -, first, -⟩ := fail_fast_stops_at_first_failure r (Machine.enacting behaviour) p []
    rfl (Machine.behaves_enacting behaviour) rfl (fun unlimited => absurd unlimited (by decide))
  have patient : ((r.failingFast false).execute (Machine.enacting behaviour).logging p
      ([], [])).1.results = [⟨invocation "a", .succeeded, 5⟩, ⟨invocation "b", .timedOut, 1000⟩,
        ⟨invocation "c", .succeeded, 7⟩] := by
    rw [execute_patient rfl]
    simp [p, FanOut.sequence_patient_cons, single_logging, Machine.runAlone_enacting,
      Machine.record_enacting, behaviour, Behaviour.child, resultOf, Child.outcome, Child.durationMs, limitMs,
      ExecutionLimits.timeout?, failingFast, r]
    rfl
  obtain ⟨results, asked⟩ := first [_] _ [_] patient (by simp [Outcome.isSuccess]) rfl
  exact ⟨results, asked⟩

end AssetWatch
