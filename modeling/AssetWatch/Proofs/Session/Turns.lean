import AssetWatch.Session.Watching

/-!
# The turns of a watching session

All that a watching session does comes down to a few turns: it looks at the files, hears of the
configuration file or of a change, ends a burst, takes what is queued, or a process ends; and files
are edited and time passes meanwhile.
-/

namespace AssetWatch

open Host (Tree Place Action Fault)

/-- Reports about files, each with what reading the configuration file gives then. -/
abbrev FileReports := List (FileEvent × Except Fault String)

def WatchLoop.hears (l : WatchLoop) : Bool := l.listens && !l.isStopped

namespace Watching

variable {σ : Type} {x : World σ} {u v w : Watching σ}

@[simp] theorem ledger_follow (e : LoopEvent) (w : Watching σ) : (w.follow e).ledger = w.ledger := by
  unfold follow
  split <;> rfl

def inState (w : Watching σ) (state : σ) : Watching σ :=
  { w with ledger := { w.ledger with state } }

/-! ## What each part comes to -/

theorem reload_cases (tree : Tree) (e : FileEvent) (w : Watching σ) :
    w.reload x tree e = w ∨ ∃ config, w.reload x tree e = w.follow (.update config) := by
  unfold reload
  split
  · exact .inr ⟨_, rfl⟩
  · exact .inl rfl

theorem endBurst_cases (now : Nat) (w : Watching σ) :
    w.endBurst now = w ∨ w.endBurst now = { w.follow .burstEnds with deadline? := none } := by
  unfold endBurst
  split
  · split
    · exact .inr rfl
    · exact .inl rfl
  · exact .inl rfl

/-- A build whose processes have all ended is counted, and the loop waits again. -/
theorem settle_cases (w : Watching σ) : w.settle = w ∨
    ∃ going, w.going? = some going ∧ going.run.isDone = true ∧
      w.settle = follow .finish { w with
        going? := none
        ledger := { w.ledger with
          metrics := w.ledger.metrics.recordBuild (Report.isSuccess ⟨going.run.results⟩) } } := by
  cases goes : w.going? with
  | none => exact .inl (by simp only [settle, goes])
  | some going =>
    by_cases ended : going.run.isDone
    · exact .inr ⟨going, rfl, ended, by simp only [settle, goes, ended, if_true]⟩
    · exact .inl (by simp [settle, goes, ended])

/-- A process of the build that goes on has ended. -/
theorem completeProcess_cases (completed : w.completeProcess x = some v) :
    ∃ going position child state, w.going? = some going ∧
      x.ended? w.running w.ledger.state = some ((position, child), state) ∧
      let (run, ledger) := (w.session.runner x.toExecutor going.build).complete x.machine.counting
        going.build.plan going.run position child { w.ledger with state }
      v = settle { w with going? := some { going with run }, ledger } := by
  unfold completeProcess at completed
  split at completed
  · cases completed
  · rename_i going goes
    obtain ⟨⟨⟨position, child⟩, state⟩, ended, same⟩ := Option.map_eq_some_iff.1 completed
    exact ⟨going, position, child, state, goes, ended, same.symm⟩

/-- How a waiting loop takes what is queued; with a configuration, the quiet period may change. -/
inductive Takes (w : Watching σ) : Watching σ → Prop
  | batches : Takes w (w.follow .takeBatches)
  | update (restart : Option Tree) (deadline? : Option Nat) (quietMs : Nat) :
      Takes w { w.follow (.takeUpdate restart) with deadline?, quietMs }

/-- A waiting loop takes what is queued, and a build begins. -/
theorem take?_cases (taken : w.take? x = some v) :
    w.loop.phase = .waiting ∧ ∃ u, Takes w u ∧ v = u.beginBuild x := by
  unfold take? at taken
  split at taken
  · rename_i config _ waiting _
    cases taken
    refine ⟨waiting, _, ?_, rfl⟩
    split
    · exact .update ..
    · exact .update _ (w.follow _).deadline? (w.follow _).quietMs
  · rename_i waiting _ _
    cases taken
    exact ⟨waiting, _, .batches, rfl⟩
  · cases taken

def recording (cause : Cause) (w : Watching σ) : Watching σ :=
  { w with ledger := { w.ledger with metrics := match cause with
    | .changes batch => w.ledger.metrics.recordChanges (UInt64.ofNat batch.paths.size)
    | .reload => w.ledger.metrics } }

inductive Begins (x : World σ) (w : Watching σ) : Watching σ → Prop
  | idle : Begins x w w
  | refused {cause : Cause} {categories : List String} {error : BuildError}
      (building : w.loop.phase = .building cause categories)
      (refused : (w.session.prepare x.toExecutor w.ledger.state categories).under w.loop.config =
        .error error) :
      Begins x w ((w.recording cause).follow .finish)
  | planned {cause : Cause} {categories : List String} {build : Build} {run : PlanRun}
      {ledger : Ledger σ}
      (building : w.loop.phase = .building cause categories)
      (prepared : (w.session.prepare x.toExecutor w.ledger.state categories).under w.loop.config =
        .ok build)
      (begun : (w.session.runner x.toExecutor build).begin x.machine.counting build.plan
        (w.recording cause).ledger = (run, ledger)) :
      Begins x w (settle { w with going? := some { build, run }, ledger })

theorem begins_beginBuild (w : Watching σ) : Begins x w (w.beginBuild x) := by
  unfold beginBuild
  split
  · rename_i building
    dsimp only
    split
    · rename_i refused
      exact .refused building refused
    · rename_i prepared
      exact .planned building prepared rfl
  · exact .idle

/-! ## Turns -/

/-- One turn of a watching session, with the report that may lead to a reload then. -/
inductive Turn (x : World σ) : Watching σ → FileReports → Watching σ → Prop
  | look (w : Watching σ) : Turn x w [] (w.inState (x.takeIncidents w.ledger.state).2)
  | edit (tree : Tree) (w : Watching σ) : Turn x w [] (w.inState (x.setTree tree w.ledger.state))
  | wait (limit : Nat) (w : Watching σ) :
      Turn x w [] (w.inState (x.proceed w.running limit w.ledger.state))
  | observe (configFolder observation : Observation) (w : Watching σ) :
      Turn x w [] { w with
        configFolder, loop := { w.loop with source := { w.loop.source with observation } } }
  | report (tree : Tree) (e : FileEvent) (w : Watching σ) :
      Turn x w (if w.loop.hears then [(e, tree.readText x.cwd w.session.configPath)] else [])
        (w.reload x tree e)
  | change (now : Nat) (path : Path) (w : Watching σ) : Turn x w [] (w.change now path)
  | endBurst (now : Nat) (w : Watching σ) : Turn x w [] (w.endBurst now)
  | complete {w w' : Watching σ} (completed : w.completeProcess x = some w') : Turn x w [] w'
  | take {w w' : Watching σ} (taken : w.take? x = some w') : Turn x w [] w'

inductive Turns (x : World σ) (w : Watching σ) : FileReports → Watching σ → Prop
  | refl : Turns x w [] w
  | tail {u v : Watching σ} {heard more : FileReports} :
      Turns x w heard u → Turn x u more v → Turns x w (heard ++ more) v

namespace Turns

theorem single {heard : FileReports} (h : Turn x w heard v) : Turns x w heard v := .tail .refl h

theorem trans {heard more : FileReports} (h : Turns x w heard u) (h' : Turns x u more v) :
    Turns x w (heard ++ more) v := by
  induction h' with
  | refl => rwa [List.append_nil]
  | tail _ last ih =>
    rw [← List.append_assoc]
    exact ih.tail last

/-- What each turn preserves is preserved by any number of them. -/
theorem preserve {P : Watching σ → Prop}
    (step : ∀ {u v : Watching σ} {heard : FileReports}, Turn x u heard v → P u → P v)
    {heard : FileReports} (h : Turns x w heard v) (first : P w) : P v := by
  induction h with
  | refl => exact first
  | tail _ last ih => exact step last ih

end Turns

def Comes (x : World σ) (w v : Watching σ) : Prop := ∃ heard, Turns x w heard v

namespace Comes

theorem refl (w : Watching σ) : Comes x w w := ⟨[], .refl⟩

theorem turn {heard : FileReports} (h : Turn x w heard v) : Comes x w v := ⟨heard, .single h⟩

theorem trans (h : Comes x w u) (h' : Comes x u v) : Comes x w v := by
  obtain ⟨heard, h⟩ := h
  obtain ⟨more, h'⟩ := h'
  exact ⟨heard ++ more, h.trans h'⟩

theorem foldl {ι : Type} {f : Watching σ → ι → Watching σ} (step : ∀ w i, Comes x w (f w i))
    (is : List ι) (w : Watching σ) : Comes x w (is.foldl f w) := by
  induction is generalizing w with
  | nil => exact .refl w
  | cons i is ih => exact (step w i).trans (ih (f w i))

theorem hear (w : Watching σ) : Comes x w (w.hear x) := by
  have looked : Comes x w (w.inState (x.takeIncidents w.ledger.state).2) := turn (.look w)
  unfold Watching.hear
  dsimp only
  split
  · exact looked
  · refine (looked.trans ?_).trans (foldl (fun w path => turn (.change _ path w)) _ _)
    refine .trans ?_ (turn (.observe _ _ _))
    refine .trans ?_ (foldl (fun w e => turn (.report _ e w)) _ _)
    exact turn (.observe _ w.loop.source.observation _)

/-- Whatever the session does until the time has come, it does by turns. -/
theorem advance {limit : Nat} (fuel : Nat) (w : Watching σ) :
    Comes x w (w.advance x limit fuel) := by
  induction fuel generalizing w with
  | zero => exact .refl w
  | succ fuel ih =>
    unfold Watching.advance
    dsimp only
    split
    · rename_i completed
      exact ((hear w).trans (turn (.complete completed))).trans (ih _)
    · have ended := (hear w).trans (turn (.endBurst (x.now (w.hear x).ledger.state) (w.hear x)))
      split
      · rename_i taken
        exact (ended.trans (turn (.take taken))).trans (ih _)
      · split
        · exact ended
        · exact (ended.trans (turn (.wait _ _))).trans (ih _)

theorem act {folder : Place} {action : Action} (w : Watching σ) :
    Comes x w (w.act x folder action) :=
  (turn (.edit _ w)).trans (hear _)

section Waiting

variable {α : Type} [DecidableEq α] {view : Tree → α} {enough : α → Bool}

theorem waitFor {wait : Wait} {start fuel since : Nat} {seen : α} (w : Watching σ) :
    Comes x w (Watching.waitFor x wait view enough start fuel seen since w) := by
  induction fuel generalizing seen since w with
  | zero => exact .refl w
  | succ fuel ih =>
    unfold Watching.waitFor
    dsimp only
    split <;> split
    · exact .refl w
    · exact (advance _ w).trans (ih _)
    · exact .refl w
    · exact (advance _ w).trans (ih _)

/-- What is done to the files, and the time that passes until nothing happens any more, are turns. -/
theorem react {folder : Place} {actions : List Action} (w : Watching σ) :
    Comes x w (w.react x folder actions view enough) :=
  (foldl (fun w _ => act w) actions w).trans (waitFor _)

end Waiting

end Comes

end Watching

end AssetWatch
