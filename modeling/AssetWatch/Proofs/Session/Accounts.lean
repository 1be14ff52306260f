import AssetWatch.Proofs.Run.FailFast
import AssetWatch.Proofs.Session.Runs
import AssetWatch.Proofs.Session.Tally
import AssetWatch.Proofs.Session.Turns

/-!
# The accounts of a watching session

What a watching session has counted at any time is what builds have left behind, and the results so
far of a build that goes on: nothing but builds and changes is counted, and each build once. So each
result is counted once by strategy and outcome and once among the durations, and each report once by
its verdict.
-/

namespace AssetWatch

open Session (Builds)

/-- Only the end of a build leads back to waiting. -/
theorem WatchLoop.Move.waiting {l l' : WatchLoop} {e : LoopEvent} (h : l.Move e l')
    (goesOn : e ≠ .finish) (waits : l'.phase = .waiting) : l.phase = .waiting := by
  cases h with
  | change | burstEnds | sourceEnds | update | updatesEnd => exact waits
  | takeBatches | takeUpdate | shutdown => cases waits
  | finish => exact absurd rfl goesOn

namespace Watching

variable {σ : Type} {x : World σ} {w w' : Watching σ} {heard : FileReports}
  {told : List (StrategyKind × Report)}

/-- What was counted comes from builds; a build that goes on has come so far. -/
inductive Accounts (x : World σ) (told : List (StrategyKind × Report)) (w : Watching σ) : Prop
  | idle (none : w.going? = none) (builds : Builds w.ledger told)
  | building {l : Ledger σ} {names : List String} {found : Nat → Config} {going : Going}
      (some : w.going? = some going) (busy : w.loop.phase ≠ .waiting) (before : Builds l told)
      (prepared : (w.session.prepare x.toExecutor l.state names).seeing found = .ok going.build)
      (ran : (w.session.runner x.toExecutor going.build).Reaches x.machine going.build.plan l
        going.run w.ledger.metrics)

/-- Whether or not a build goes on, what was counted are the reports of builds and its results so
far. -/
structure Tells (w : Watching σ) (told : List (StrategyKind × Report)) : Prop where
  idle : w.going? = none → Builds w.ledger told
  building : ∀ going, w.going? = some going → ∃ l : Ledger σ, Builds l told ∧
    Metrics.Adds going.build.plan.strategy going.run.results l.metrics w.ledger.metrics

theorem Accounts.tells (h : Accounts x told w) : w.Tells told := by
  cases h with
  | idle none builds => exact ⟨fun _ => builds, fun going some => by cases none.symm.trans some⟩
  | building some _ before _ ran =>
    refine ⟨fun none => (by cases none.symm.trans some), fun going goes => ?_⟩
    cases some.symm.trans goes
    exact ⟨_, before, ran.adds⟩

/-- No build goes on while the loop waits. -/
theorem Accounts.idle_of_waiting (h : Accounts x told w) (waiting : w.loop.phase = .waiting) :
    w.going? = none := by
  cases h with
  | idle none => exact none
  | building _ busy => exact absurd waiting busy

/-- Nothing is counted between two sessions, and no build begins or ends. -/
structure Alike (w w' : Watching σ) : Prop where
  going : w'.going? = w.going?
  metrics : w'.ledger.metrics = w.ledger.metrics
  session : ∃ config, w'.session = w.session.replaceConfig config
  waiting : w'.loop.phase = .waiting → w.loop.phase = .waiting

theorem Alike.refl (w : Watching σ) : Alike w w := ⟨rfl, rfl, ⟨w.session.config, rfl⟩, id⟩

private theorem alike_follow (w : Watching σ) (e : LoopEvent) (goesOn : e ≠ .finish)
    (deadline? : Option Nat) (quietMs : Nat) : Alike w { w.follow e with deadline?, quietMs } := by
  unfold follow
  split
  · rename_i loop step
    exact ⟨rfl, rfl, ⟨loop.config, rfl⟩, (WatchLoop.move_of_step? step).2.waiting goesOn⟩
  · exact ⟨rfl, rfl, ⟨w.session.config, rfl⟩, id⟩

theorem Accounts.alike (h : Accounts x told w) (alike : Alike w w') : Accounts x told w' := by
  obtain ⟨same, metrics, ⟨config, session⟩, waiting⟩ := alike
  cases h with
  | idle none builds =>
    have left := builds.between w'.ledger.state
    rw [← metrics] at left
    exact .idle (same.trans none) left
  | @building l names found going some busy before prepared ran =>
    have prepared' : (w'.session.prepare x.toExecutor l.state names).seeing found =
        .ok going.build := by rwa [session]
    have ran' : (w'.session.runner x.toExecutor going.build).Reaches x.machine going.build.plan l
        going.run w'.ledger.metrics := by rwa [session, metrics]
    exact .building (same.trans some) (mt waiting busy) before prepared' ran'

@[simp] theorem going?_follow (w : Watching σ) (e : LoopEvent) : (w.follow e).going? = w.going? := by
  unfold follow
  split <;> rfl

private theorem builds_follow (e : LoopEvent) (before : Builds w.ledger told) :
    Builds (w.follow e).ledger told := by rwa [ledger_follow]

/-- A build is counted once none of its processes runs. -/
theorem Accounts.settle (h : Accounts x told w) : ∃ more, Accounts x (told ++ more) w.settle := by
  rcases settle_cases w with same | ⟨going, goes, ended, same⟩ <;> rw [same]
  · exact ⟨[], by rwa [List.append_nil]⟩
  · cases h with
    | idle none => cases none.symm.trans goes
    | building some _ before prepared ran =>
      cases some.symm.trans goes
      have built := before.watched w.ledger.state prepared ran ended
      exact ⟨_, .idle (going?_follow ..) (builds_follow .finish built)⟩

/-- The changes that a build starts for are counted apart. -/
theorem builds_recording (before : Builds w.ledger told) (cause : Cause) :
    Builds (w.recording cause).ledger told := by
  cases cause with
  | changes batch => exact before.changes _
  | reload => exact before

/-- A build begins, or is over at once and not counted. -/
theorem Accounts.beginBuild (h : Accounts x told w) (idle : w.going? = none) :
    ∃ more, Accounts x (told ++ more) (w.beginBuild x) := by
  have before : Builds w.ledger told := h.tells.idle idle
  have begins := begins_beginBuild (x := x) w
  generalize w.beginBuild x = v at begins ⊢
  cases begins with
  | idle => exact ⟨[], by rwa [List.append_nil]⟩
  | @refused cause =>
    refine ⟨[], ?_⟩
    rw [List.append_nil]
    exact .idle ((going?_follow ..).trans idle) (builds_follow .finish (builds_recording before cause))
  | @planned cause categories build run ledger building prepared begun =>
    have recorded : Builds (w.recording cause).ledger told := builds_recording before cause
    have ran := Runner.reaches_begin (w.session.runner x.toExecutor build) x.machine build.plan
      (w.recording cause).ledger
    rw [begun] at ran
    have busy : w.loop.phase ≠ .waiting := by
      rw [building]
      nofun
    exact Accounts.settle (.building rfl busy recorded prepared ran)

/-- What a watching session does is a build, or is not counted. -/
theorem Accounts.turn (h : Accounts x told w) (turn : Turn x w heard w') :
    ∃ more, Accounts x (told ++ more) w' := by
  have alike {w'} (alike : Alike w w') : ∃ more, Accounts x (told ++ more) w' :=
    ⟨[], by simpa using h.alike alike⟩
  cases turn with
  | look | edit | wait | observe => exact alike ⟨rfl, rfl, ⟨w.session.config, rfl⟩, id⟩
  | report tree e =>
    rcases reload_cases (x := x) tree e w with same | ⟨config, same⟩ <;> rw [same]
    · exact alike (.refl w)
    · exact alike (alike_follow w (.update config) nofun _ _)
  | change => exact alike (alike_follow w (.change _) nofun _ _)
  | endBurst now =>
    rcases endBurst_cases now w with same | same <;> rw [same]
    · exact alike (.refl w)
    · exact alike (alike_follow w .burstEnds nofun _ _)
  | complete completed =>
    obtain ⟨going, position, child, state, goes, -, rfl⟩ := completeProcess_cases completed
    cases h with
    | idle none => cases none.symm.trans goes
    | building some busy before prepared ran =>
      cases some.symm.trans goes
      have ran' := Runner.Reaches.complete { w.ledger with state } ran position child
      exact Accounts.settle (.building rfl busy before prepared ran')
  | take taken =>
    obtain ⟨waiting, u, takes, rfl⟩ := take?_cases taken
    have idle := h.idle_of_waiting waiting
    have taken : Alike w u := by
      cases takes with
      | batches => exact alike_follow w .takeBatches nofun _ _
      | update restart => exact alike_follow w (.takeUpdate restart) nofun _ _
    exact (h.alike taken).beginBuild (taken.going.trans idle)

theorem Accounts.turns (h : Accounts x told w) (turns : Turns x w heard w') :
    ∃ more, Accounts x (told ++ more) w' := by
  refine turns.preserve (P := fun w => ∃ more, Accounts x (told ++ more) w) ?_ ⟨[], by simpa using h⟩
  rintro u v heard turn ⟨more, h⟩
  obtain ⟨rest, h⟩ := h.turn turn
  exact ⟨more ++ rest, by rwa [← List.append_assoc]⟩

/-- A watching session starts with what was counted before. -/
theorem accounts_start {s : Session} {l : Ledger σ} (before : Builds l told)
    (started : Watching.start s x l = .ok w) :
    Accounts x told w := by
  simp only [Watching.start, bind_eq_ok_iff] at started
  obtain ⟨_, -, _, -, same⟩ := started
  cases same
  exact .idle rfl (before.between _)

end Watching

namespace Session

variable {σ : Type}

/-- Whatever is built, watched or not, the counts are those of the reports: every result is counted
once by strategy and outcome and once among the durations, and every report once by its verdict. While
a watching session builds, the results so far are counted besides. -/
theorem builds_conserve_work :
    (∀ (l : Ledger σ) (told : List (StrategyKind × Report)),
      Builds l told → Metrics.Tallies told l.metrics) ∧
    (∀ (s : Session) (x : Executor σ) (names : List String) (found : Nat → Config) (l : Ledger σ),
      s.Leaves x names found l) ∧
    ∀ (s : Session) (x : World σ) (l : Ledger σ) (told : List (StrategyKind × Report))
      (w : Watching σ), Builds l told → Watching.start s x l = .ok w →
      (∀ w' heard, Watching.Turns x w heard w' → ∃ more, w'.Tells (told ++ more)) ∧
      ∀ (α : Type) [DecidableEq α] (folder : Host.Place) (actions : List Host.Action)
        (view : Host.Tree → α) (enough : α → Bool),
        ∃ more, (w.react x folder actions view enough).Tells (told ++ more) := by
  refine ⟨fun _ _ => Builds.tallies, leaves, ?_⟩
  intro s x l told w before started
  have follows (w' : Watching σ) (heard : FileReports) (turns : Watching.Turns x w heard w') :
      ∃ more, w'.Tells (told ++ more) := by
    obtain ⟨more, accounts⟩ := (Watching.accounts_start before started).turns turns
    exact ⟨more, accounts.tells⟩
  refine ⟨follows, fun α _ folder actions view enough => ?_⟩
  have comes : Watching.Comes x w (w.react x folder actions view enough) := .react w
  obtain ⟨heard, turns⟩ := comes
  exact follows _ heard turns

def givingUp : Session where
  config := { Config.ofCategories ["css", "js"] with
    strategy := { kind := .singleExecution, commands := .ofList [("test", "bundle")] }
    execution := { failFast := true } }
  configPath := ⟨"/p/config/bundler.toml"⟩
  root := ⟨"/p"⟩
  environment := ⟨"test"⟩

/-- Styles and scripts are built by a program that is not found, a category that is not known is
refused, and no categories are built. -/
theorem exists_builds_files : ∃ (l : Ledger (Host.Tree × List String)) (report : Report),
    Builds l [(.singleExecution, report), (.singleExecution, ⟨[]⟩)] ∧
    report.results.map (·.outcome.label) = ["spawn_failed", "skipped"] := by
  let s := givingUp
  let files : Host.Tree × List String := (.ofFolders ["css", "js"], [])
  let m : Machine (Host.Tree × List String) := Executor.noting.machine
  have both : ((s.prepare .noting files ["css", "js"]).under s.config).toOption.any (fun b =>
      b.plan.strategy == .singleExecution && !b.plan.concurrent &&
        (FanOut.sequence ((s.runner .noting b).work m b.plan) (Runner.next m) b.plan.invocations
          files).1.map (·.outcome.label) == ["spawn_failed", "skipped"]) = true := by
    decide +kernel
  have nothing : ((s.prepare .noting files []).under s.config).toOption.any (fun b =>
      b.plan.strategy == .singleExecution && b.plan.invocations.isEmpty) = true := by
    decide +kernel
  have unknown : (s.plan .noting files ["zip"]).under s.config =
      .error (.discovery (.unknownCategory "zip")) := rfl
  obtain ⟨b, prepared, fine⟩ := exists_of_any both
  obtain ⟨b', prepared', fine'⟩ := exists_of_any nothing
  simp only [Bool.and_eq_true, Bool.not_eq_true', beq_iff_eq] at fine
  obtain ⟨⟨kind, sequential⟩, labels⟩ := fine
  obtain ⟨kind', none⟩ := Bool.and_eq_true_iff.1 fine'
  have reported := ((leaves s .noting ["css", "js"] (fun _ => s.config) { state := files }).uncounted b
    prepared).1
  rw [Runner.execute_sequential sequential] at reported
  have empty (m : Metrics) : ((s.build .noting [] { state := files, metrics := m }).under s.config).1 =
      .ok ⟨[]⟩ := by
    rw [Reading.under, (leaves s .noting [] _ { state := files, metrics := m }).empty b' prepared'
      (List.isEmpty_iff.1 none)]
  have built := Builds.between files <| (Builds.fresh files).built prepared reported
  have refused := Builds.between files <| built.refused (x := .noting)
    (congrArg Prod.fst (build_of_error unknown))
  have ended := refused.built prepared' (empty _)
  rw [kind, beq_iff_eq.1 kind'] at ended
  exact ⟨_, _, ended, labels⟩

/-- A script changes, and the build that follows is over at once, for its program is not found. -/
theorem exists_turns_script : ∃ w w',
    Watching.start (ofCategories ["js"]) World.still ⟨(.ofFolders ["config", "js"], []), {}⟩ = .ok w ∧
    Watching.Turns World.still w [] w' ∧ w'.ledger.metrics.builds false = 1 := by
  let later (w : Watching (Host.Tree × List String)) :=
    ((w.change 0 ⟨"/p/js/app"⟩).endBurst 1000000).take? World.still
  have built : (Watching.start (ofCategories ["js"]) World.still
      ⟨(.ofFolders ["config", "js"], []), {}⟩).toOption.any (fun w =>
        (later w).any (·.ledger.metrics.builds false == 1)) = true := by decide +kernel
  obtain ⟨w, started, some⟩ := exists_of_any built
  obtain ⟨w', taken, one⟩ := (Option.any_eq_true _ _).1 some
  exact ⟨w, w', started, .tail (.tail (.single (.change 0 ⟨"/p/js/app"⟩ w)) (.endBurst 1000000 _))
    (.take taken), beq_iff_eq.1 one⟩

theorem builds_conserve_work_scripts : ∃ (l : Ledger (Host.Tree × List String)) (report : Report)
    (w w' : Watching (Host.Tree × List String)) (told : List (StrategyKind × Report)),
    Builds l [(.singleExecution, report), (.singleExecution, ⟨[]⟩)] ∧
    report.results.map (·.outcome.label) = ["spawn_failed", "skipped"] ∧
    Metrics.Tallies [(.singleExecution, report), (.singleExecution, ⟨[]⟩)] l.metrics ∧
    l.metrics.invocations .singleExecution "skipped" = 1 ∧
    Watching.start (ofCategories ["js"]) World.still ⟨(.ofFolders ["config", "js"], []), {}⟩ = .ok w ∧
    Watching.Turns World.still w [] w' ∧ w'.ledger.metrics.builds false = 1 ∧ w'.Tells told := by
  obtain ⟨l, report, builds, labels⟩ := exists_builds_files
  obtain ⟨w, w', started, turns, one⟩ := exists_turns_script
  obtain ⟨tallies, -, watches⟩ := builds_conserve_work (σ := Host.Tree × List String)
  obtain ⟨told, tells⟩ := (watches _ _ _ [] w (.fresh _) started).1 w' [] turns
  have counted := (tallies _ _ builds).invocations .singleExecution "skipped"
  have skipped : report.results.countP (·.outcome.label = "skipped") = 1 := by
    have counts := congrArg (List.countP (· = "skipped")) labels
    rwa [List.countP_map] at counts
  rw [Metrics.resultsOf] at counted
  simp only [List.filter_cons, decide_true, if_true, List.filter_nil, List.flatMap_cons,
    List.flatMap_nil, List.append_nil, skipped] at counted
  exact ⟨l, report, w, w', told, builds, labels, tallies _ _ builds, counted, started, turns, one,
    tells⟩

end Session

end AssetWatch
