import AssetWatch.Proofs.Cli.Check
import AssetWatch.Proofs.Run.Recording
import AssetWatch.Proofs.Run.Report
import AssetWatch.Proofs.Session.Admission

/-!
# Building what is planned

A build is refused exactly when the plan of the same categories is, and then leaves everything as
it was. Otherwise it reports on the processes of that plan. Its verdict is the same wherever it is
given: in the report, in the list of what failed, in the counts, and in the exit code of `build`.
-/

namespace AssetWatch

open Host (Tree)

namespace Report

variable {r : Report}

theorem isSuccess_iff : r.isSuccess = true ↔ ∀ result ∈ r.results, result.outcome = .succeeded := by
  rw [isSuccess, List.all_eq_true]
  refine forall₂_congr fun result _ => ?_
  cases result.outcome <;> simp [Outcome.isSuccess]

theorem failed_eq_nil_iff : r.failed = [] ↔ r.isSuccess = true := by
  simp [failed, isSuccess, List.filter_eq_nil_iff]

end Report

namespace Session

variable {σ : Type} {s : Session} {x : Executor σ} {c : Config} {names : List String} {l : Ledger σ}

/-- A build that can be planned is run under the limits of the same configuration. -/
theorem build_of_ok {p : Plan} (h : (s.plan x l.state names).under c = .ok p) :
    (s.build x names l).under c =
      (.ok (s.run x ⟨p, c.execution⟩ l).1, (s.run x ⟨p, c.execution⟩ l).2) := by
  refine build_of_prepared ?_
  rw [← Reading.under, prepare_under, h]
  rfl

theorem build_eq_error_iff {error : BuildError} :
    ((s.build x names l).under c).1 = .error error ↔
      (s.plan x l.state names).under c = .error error := by
  refine ⟨plan_of_build_error, fun h => ?_⟩
  rw [build_of_error h]

structure Reports (p : Plan) (report : Report) (before after : Metrics) : Prop where
  invocations : report.results.map (·.invocation) = p.invocations
  success : report.isSuccess = true ↔ ∀ result ∈ report.results, result.outcome = .succeeded
  failed : report.isSuccess = true ↔ report.failed = []
  recorded : ∀ verdict, after.builds verdict =
    before.builds verdict + if report.isSuccess = verdict then 1 else 0

/-- How a build of some categories answers to the plan of the same categories. -/
structure Answers (s : Session) (x : Executor σ) (c : Config) (names : List String) (l : Ledger σ) :
    Prop where
  refused : ∀ error, ((s.build x names l).under c).1 = .error error ↔
    (s.plan x l.state names).under c = .error error
  /-- the machine is not asked for anything, and nothing is counted -/
  untouched : ∀ error, ((s.build x names l).under c).1 = .error error →
    ((s.build x names l).under c).2 = l
  reports : ∀ p, (s.plan x l.state names).under c = .ok p → ∃ report l',
    (s.build x names l).under c = (.ok report, l') ∧ Reports p report l.metrics l'.metrics

private theorem reports_run {b : Build} (powered : ∀ n, x.processors? = some n → 0 < n) :
    Reports b.plan (s.run x b l).1 l.metrics (s.run x b l).2.metrics where
  invocations := Runner.invocations_execute powered
  success := Report.isSuccess_iff
  failed := Report.failed_eq_nil_iff.symm
  recorded verdict := by
    let ran := (s.runner x b).execute x.machine.counting b.plan l
    have adds : Metrics.Adds b.plan.strategy ran.1.results l.metrics ran.2.metrics :=
      Runner.execute_adds ..
    have counted : (s.run x b l).2.metrics = ran.2.metrics.recordBuild ran.1.isSuccess := rfl
    rw [counted, Metrics.builds_recordBuild, adds.builds]
    rfl

private theorem answers (powered : ∀ n, x.processors? = some n → 0 < n) :
    s.Answers x c names l where
  refused _ := build_eq_error_iff
  untouched _ refused := build_of_refused refused
  reports p h := ⟨_, _, build_of_ok h, reports_run (b := ⟨p, c.execution⟩) powered⟩

def Succeeds (s : Session) (x : Executor σ) (c : Config) (names : List String) (l : Ledger σ) :
    Prop :=
  ∃ report l', (s.build x names l).under c = (.ok report, l') ∧
    ∀ result ∈ report.results, result.outcome = .succeeded

end Session

namespace Cli

variable {σ : Type} {o : StartupOptions} {x : Executor σ} {names : List String} {state : σ}
  {s : Session}

theorem failure_outputOf_eq_none_iff {result : Except BuildError Report} :
    (outputOf result).failure = none ↔ ∃ report, result = .ok report ∧ report.isSuccess = true := by
  cases result with
  | error e => exact ⟨nofun, nofun⟩
  | ok report =>
    have fine : (outputOf (.ok report)).failure = none ↔ report.failed.length = 0 := by
      unfold outputOf
      dsimp only
      split <;> simp_all [Output.failed]
    rw [fine, List.length_eq_zero_iff, Report.failed_eq_nil_iff]
    simp

/-- The categories that a build is for: those that are named, or all. -/
def asked (s : Session) (names : List String) : List String :=
  if names.isEmpty then s.config.categories else names

private theorem buildOnce_eq (l : Ledger σ) :
    buildOnce s x names l = (s.build x (asked s names) l).under s.config := by
  unfold buildOnce asked
  split <;> rfl

theorem exitCode_build_eq_zero_iff (up : (o.bootstrap x state).result = .ok s) :
    (build o x names state).1.exitCode = 0 ↔
      s.Succeeds x s.config (asked s names) { state := (o.bootstrap x state).state } := by
  have ran : (build o x names state).1 =
      outputOf (buildOnce s x names { state := (o.bootstrap x state).state }).1 := by
    simp only [build, up]
  rw [ran, exitCode_eq_zero_iff, failure_outputOf_eq_none_iff, buildOnce_eq]
  constructor
  · rintro ⟨report, built, success⟩
    exact ⟨report, _, Prod.ext built rfl, Report.isSuccess_iff.1 success⟩
  · rintro ⟨report, l', built, success⟩
    exact ⟨report, by rw [built], Report.isSuccess_iff.2 success⟩

def Arguments.startup (a : Arguments) : StartupOptions where
  root := a.root
  configPath := a.config
  environment := .select a.environment
  serveMetrics := false

private theorem run_build {a : Arguments} {x : World σ} (h : a.command = .build names) :
    a.run x state = .ended (build a.startup x.toExecutor names state).1
      (build a.startup x.toExecutor names state).2 := by
  rw [Arguments.run, h]
  rfl

/-- A build runs what is planned and tells how it went, and the exit code of `build` tells the same. -/
theorem build_answers_to_plan (x : World σ) (powered : ∀ n, x.processors? = some n → 0 < n) :
    (∀ (s : Session) (c : Config) (names : List String) (l : Ledger σ),
      s.Answers x.toExecutor c names l) ∧
    ∀ (a : Arguments) (names : List String) (state : σ) (s : Session),
      a.command = .build names → (a.startup.bootstrap x.toExecutor state).result = .ok s →
      ∃ output state', a.run x state = .ended output state' ∧
        (output.exitCode = 0 ↔ s.Succeeds x.toExecutor s.config (asked s names)
          { state := (a.startup.bootstrap x.toExecutor state).state }) := by
  refine ⟨fun _ _ _ _ => Session.answers powered, fun a names state s command up => ?_⟩
  exact ⟨_, _, run_build command, exitCode_build_eq_zero_iff up⟩

end Cli

namespace Cli

def Arguments.tests : Arguments where
  root := ⟨"/p"⟩
  environment := some "test"
  command := .build []

private theorem Arguments.startup_tests : Arguments.tests.startup =
    { StartupOptions.tests with withSetup := true, serveMetrics := false } := by
  have chosen : Environment.select (some "test") = ⟨"test"⟩ := by decide +kernel
  rw [Arguments.startup, Arguments.tests, chosen]
  rfl

/-- The bundler of a project is not found. -/
theorem build_answers_to_plan_still : ∃ s output state',
    (∀ n, World.still.processors? = some n → 0 < n) ∧
    (∀ (s : Session) (c : Config) (names : List String) (l : Ledger (Tree × List String)),
      s.Answers World.still.toExecutor c names l) ∧
    (Arguments.tests.startup.bootstrap World.still.toExecutor
      (.ofProject (Config.document "js" "test") "js", [])).result = .ok s ∧
    Arguments.tests.run World.still (.ofProject (Config.document "js" "test") "js", []) =
      .ended output state' ∧
    (output.exitCode = 0 ↔ s.Succeeds World.still.toExecutor s.config (asked s [])
      { state := (Arguments.tests.startup.bootstrap World.still.toExecutor
          (.ofProject (Config.document "js" "test") "js", [])).state }) := by
  have powered : ∀ n, World.still.processors? = some n → 0 < n := by
    intro n h
    cases h
    decide
  have fine : ((Config.parse (Config.document "js" "test")).toOption.any fun c =>
      c.setup.isNone && (c.strategy.commandFor ⟨"test"⟩).toOption.isSome) = true := by
    decide +kernel
  obtain ⟨c, parsed, fine⟩ := exists_of_any fine
  generalize Config.document "js" "test" = content at parsed ⊢
  obtain ⟨noSetup, hasCommand⟩ := Bool.and_eq_true_iff.1 fine
  obtain ⟨program, command⟩ := exists_of_isSome hasCommand
  have found : StartupOptions.tests.load (.ofProject content "js") [] = _ :=
    StartupOptions.load_tests rfl (Tree.readText_ofProject _ "js") parsed
  have up : (Arguments.tests.startup.bootstrap World.still.toExecutor
      (.ofProject content "js", [])).result = .ok ((Session.ofCategories []).replaceConfig c) := by
    rw [Arguments.startup_tests]
    refine StartupOptions.bootstrap_of_noSetup found command ?_
    exact Option.isNone_iff_eq_none.1 noSetup
  have answers := build_answers_to_plan World.still powered
  obtain ⟨output, state', ran, exits⟩ := answers.2 .tests [] _ _ rfl up
  exact ⟨_, output, state', powered, answers.1, up, ran, exits⟩

end Cli

end AssetWatch
