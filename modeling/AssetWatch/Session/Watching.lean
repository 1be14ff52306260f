import AssetWatch.Host.Action
import AssetWatch.Session.Loop

/-!
# A watching session

The watch loop in its surroundings: folders are observed, the configuration file is read when
it may have changed, builds run on a machine, and time passes. A burst of changes is over when
nothing was reported for the quiet period of the configuration its watchers were started for.
-/

namespace AssetWatch

open Host (Tree Place Action Incident)

/-- A machine on which time passes, and whose files others may change. Times are counted in
microseconds. -/
structure World (σ : Type) extends Executor σ where
  now : σ → Nat
  setTree : Tree → σ → σ
  /-- what has happened to files since this was asked last -/
  takeIncidents : σ → List Incident × σ
  /-- lets time pass up to then, or until something happens to files or a process ends -/
  proceed : List Running → (limit : Nat) → σ → σ
  /-- which of the processes has ended first, and what became of it -/
  ended? : List Running → σ → Option ((Nat × Child) × σ)

/-- A build that goes on. -/
structure Going where
  build : Build
  run : PlanRun

structure Watching (σ : Type) where
  session : Session
  loop : WatchLoop
  /-- how the folder of the configuration file is observed, if it is -/
  configFolder : Observation
  ledger : Ledger σ
  /-- when the burst of changes is over -/
  deadline? : Option Nat := none
  /-- how long nothing is reported before a burst is over -/
  quietMs : Nat
  going? : Option Going := none

namespace Watching

variable {σ : Type}

def configWatch (s : Session) : ConfigWatch := ⟨s.configPath⟩

/-! ## Starting -/

/-- Refuses a folder that the system refuses to watch. -/
def checkFolder (x : Executor σ) (folder : Path) : Except BuildError Unit :=
  match x.watchFault? folder with
  | some fault => .error (.watch folder fault)
  | none => .ok ()

/-- Observes the folder of the configuration file, if configurations are to be taken. -/
def observeConfig (s : Session) (x : Executor σ) (t : Tree) : Except BuildError Observation := do
  if !s.config.watcher.watchConfig then return {}
  let folder := (configWatch s).folder
  let o ← (Observation.startFlat t x.cwd folder).mapError (.watch folder)
  checkFolder x folder
  return o

/-- Refuses targets with a folder that is there and cannot be watched. -/
def checkTargets (s : Session) (x : Executor σ) (t : Tree) (targets : Targets) :
    Except BuildError Unit :=
  let folders := (Matcher.ofTargets t x.cwd s.root targets).watchRoots
  (folders.filter (t.isThere x.cwd)).forM (checkFolder x)

/-- Starts all watchers. Once they run, nothing but a shutdown ends the session. -/
def start (s : Session) (x : World σ) (l : Ledger σ) : Except BuildError (Watching σ) := do
  let (_, state) := x.takeIncidents l.state
  let tree := x.tree state
  let configFolder ← observeConfig s x.toExecutor tree
  checkTargets s x.toExecutor tree s.config.targets
  return {
    session := s
    loop := .start tree x.cwd s.root s.config
    configFolder
    ledger := { l with state }
    quietMs := s.config.watcher.debounceMs.toNat }

/-! ## What happens -/

/-- Goes on after an event, if it can happen. -/
def follow (e : LoopEvent) (w : Watching σ) : Watching σ :=
  match w.loop.step? e with
  | some loop => { w with loop, session := w.session.replaceConfig loop.config }
  | none => w

/-- A path is reported, which lets the burst go on. -/
def change (now : Nat) (w : Watching σ) (path : Path) : Watching σ :=
  { w.follow (.change path) with deadline? := some (now + w.quietMs * 1000) }

/-- A configuration is passed on if a report is about its file and it can be loaded. -/
def reload (x : World σ) (tree : Tree) (w : Watching σ) (e : FileEvent) : Watching σ :=
  match (configWatch w.session).forward e (tree.readText x.cwd w.session.configPath) with
  | some config => w.follow (.update config)
  | none => w

/-- Hears of what has happened to the files. -/
def hear (x : World σ) (w : Watching σ) : Watching σ :=
  let (incidents, state) := x.takeIncidents w.ledger.state
  let w := { w with ledger := { w.ledger with state } }
  if incidents.isEmpty then w
  else
    let tree := x.tree state
    let (reports, configFolder) := w.configFolder.hear tree x.cwd incidents
    let w := reports.foldl (reload x tree) { w with configFolder }
    let source := w.loop.source
    let (events, observation) := source.observation.hear tree x.cwd incidents
    let w := { w with loop := { w.loop with source := { source with observation } } }
    (events.flatMap FileEvent.changedPaths).foldl (change (x.now state)) w

/-- The burst ends if its time has come. -/
def endBurst (now : Nat) (w : Watching σ) : Watching σ :=
  match w.deadline? with
  | some deadline =>
    if deadline ≤ now then { w.follow .burstEnds with deadline? := none } else w
  | none => w

/-! ## Builds -/

/-- The build that goes on is over once none of its processes runs, and is counted then. -/
def settle (w : Watching σ) : Watching σ :=
  match w.going? with
  | some going =>
    if going.run.isDone then
      let metrics := w.ledger.metrics.recordBuild (Report.isSuccess ⟨going.run.results⟩)
      { w with going? := none, ledger := { w.ledger with metrics } }.follow .finish
    else w
  | none => w

/-- Starts the build that the loop asks for. One that cannot be planned is over at once. -/
def beginBuild (x : World σ) (w : Watching σ) : Watching σ :=
  match w.loop.phase with
  | .building cause categories =>
    let metrics := match cause with
      | .changes batch => w.ledger.metrics.recordChanges (UInt64.ofNat batch.paths.size)
      | .reload => w.ledger.metrics
    let w := { w with ledger := { w.ledger with metrics } }
    let executor := x.toExecutor
    match (w.session.prepare executor w.ledger.state categories).under w.loop.config with
    | .error _ => w.follow .finish
    | .ok build =>
      let runner := w.session.runner executor build
      let (run, ledger) := runner.begin x.machine.counting build.plan w.ledger
      { w with going? := some { build, run }, ledger }.settle
  | _ => w

/-- The processes that run. -/
def running (w : Watching σ) : List Running :=
  match w.going? with
  | some going => going.run.running.map fun (_, _, r) => r
  | none => []

/-- A process of the build has ended. -/
def completeProcess (x : World σ) (w : Watching σ) : Option (Watching σ) :=
  match w.going? with
  | none => none
  | some going =>
    (x.ended? w.running w.ledger.state).map fun ((position, child), state) =>
      let runner := w.session.runner x.toExecutor going.build
      let (run, ledger) := runner.complete x.machine.counting going.build.plan going.run position
        child { w.ledger with state }
      { w with going? := some { going with run }, ledger }.settle

/-- The files on which the watchers are restarted for a configuration, if they can be. -/
def restart? (x : World σ) (w : Watching σ) (config : Config) : Option Tree :=
  let tree := x.tree w.ledger.state
  match checkTargets w.session x.toExecutor tree config.targets with
  | .ok _ => some tree
  | .error _ => none

/-- Takes a configuration and restarts the watchers for it. -/
def takeUpdate (x : World σ) (config : Config) (w : Watching σ) : Watching σ :=
  let restart := w.restart? x config
  let w := w.follow (.takeUpdate restart)
  let w := if restart.isSome then { w with deadline? := none, quietMs := config.watcher.debounceMs.toNat }
    else w
  w.beginBuild x

/-- Takes what is queued, if the loop waits. A loop with both a configuration and batches may take
either (`WatchLoop.step?` allows both); here the configuration stands for that choice. No result
depends on it: those about the loop hold whichever it takes, and those about a session hold for any
turns, so also where the configuration is reported once the batches were taken. -/
def take? (x : World σ) (w : Watching σ) : Option (Watching σ) :=
  match w.loop.phase, w.loop.updates, w.loop.source.batches with
  | .waiting, config :: _, _ => some (w.takeUpdate x config)
  | .waiting, [], _ :: _ => some ((w.follow .takeBatches).beginBuild x)
  | _, _, _ => none

/-! ## Time -/

/-- Goes on until the time has come. -/
def advance (x : World σ) (limit : Nat) : (fuel : Nat) → Watching σ → Watching σ
  | 0, w => w
  | fuel + 1, w =>
    let w := w.hear x
    match w.completeProcess x with
    | some w => w.advance x limit fuel
    | none =>
      let w := w.endBurst (x.now w.ledger.state)
      match w.take? x with
      | some w => w.advance x limit fuel
      | none =>
        if limit ≤ x.now w.ledger.state then w
        else
          let next := match w.deadline? with
            | some deadline => min deadline limit
            | none => limit
          let state := x.proceed w.running next w.ledger.state
          { w with ledger := { w.ledger with state } }.advance x limit fuel

/-- More steps than any wait takes. -/
def endless : Nat := 1000000000

/-- Does one action, seen from a folder. -/
def act (x : World σ) (folder : Place) (w : Watching σ) (action : Action) : Watching σ :=
  let state := x.setTree (action.apply folder (x.tree w.ledger.state)) w.ledger.state
  { w with ledger := { w.ledger with state } }.hear x

/-- How a wait is done: times in microseconds. -/
structure Wait where
  step : Nat := 10000
  rest : Nat := 150000
  limit : Nat := 20000000

/-- Waits until what is seen of the files is enough and has not changed for a while. -/
def waitFor {α : Type} [DecidableEq α] (x : World σ) (wait : Wait) (view : Tree → α)
    (enough : α → Bool) (start : Nat) : (fuel : Nat) → (seen : α) → (since : Nat) →
    Watching σ → Watching σ
  | 0, _, _, w => w
  | fuel + 1, seen, since, w =>
    let now := x.now w.ledger.state
    let found := view (x.tree w.ledger.state)
    let since := if found = seen then since else now
    if (enough found && since + wait.rest ≤ now) || start + wait.limit ≤ now then w
    else waitFor x wait view enough start fuel found since (w.advance x (now + wait.step) endless)

/-- Does actions, and waits until what is seen of the files is enough and stays. -/
def react {α : Type} [DecidableEq α] (x : World σ) (folder : Place) (actions : List Action)
    (view : Tree → α) (enough : α → Bool) (w : Watching σ) : Watching σ :=
  let seen := view (x.tree w.ledger.state)
  let w := actions.foldl (act x folder) w
  let now := x.now w.ledger.state
  let wait : Wait := {}
  waitFor x wait view enough now (wait.limit / wait.step + 1) seen now w

end Watching

end AssetWatch
