import AssetWatch.Session.Build
import AssetWatch.Shutdown
import AssetWatch.Watch.Batch
import AssetWatch.Watch.Observation

/-!
# The watch loop

While a session watches, changes come together to batches, batches and new configurations
queue up, and one build runs at a time. A waiting loop takes all queued batches at once and
builds the categories they affect, or takes one configuration, puts it in force, restarts its
watchers and builds everything. Restarted watchers begin with nothing; watchers that cannot
be restarted stay, with all they have seen. Whether configurations are taken at all is
settled by the configuration that is in force when the loop begins. Watchers that report no
more leave a loop that still takes what is queued, and nothing but a shutdown stops it.
-/

namespace AssetWatch

open Host (Tree Place)

/-- Running source watchers. -/
structure SourceWatch where
  matcher : Matcher
  observation : Observation
  /-- whether the watchers still report -/
  isOpen : Bool := true
  /-- the changes of the burst that goes on -/
  changes : List Path := []
  /-- the batches that were not taken yet, the oldest first -/
  batches : List Batch := []

namespace SourceWatch

/-- Starts to watch the folders of targets. -/
def start (t : Tree) (cwd : Place) (root : Path) (targets : Targets) : SourceWatch :=
  let matcher := Matcher.ofTargets t cwd root targets
  { matcher, observation := .start t cwd matcher.watchRoots }

/-- A change is part of the burst that goes on. -/
def see? (w : SourceWatch) (path : Path) : Option SourceWatch :=
  if w.isOpen then some { w with changes := w.changes ++ [path] } else none

/-- The batch of the burst that goes on, which ends. One that affects no category is passed
over. -/
def endBurst (w : SourceWatch) : SourceWatch :=
  let batch := Batch.ofPaths w.matcher w.changes
  { w with changes := [], batches := if batch.isEmpty then w.batches else w.batches ++ [batch] }

end SourceWatch

/-- Why a build runs. -/
inductive Cause
  | changes (batch : Batch)
  | reload

inductive Phase
  | waiting
  | building (cause : Cause) (categories : List String)
  | stopped

structure WatchLoop where
  root : Path
  cwd : Place
  config : Config
  source : SourceWatch
  /-- configurations that were loaded and not taken yet, the oldest first -/
  updates : List Config := []
  /-- whether configurations are taken -/
  listens : Bool
  phase : Phase := .waiting

/-- What may happen next. -/
inductive LoopEvent
  /-- the watchers see a change -/
  | change (path : Path)
  /-- nothing changed for the quiet period -/
  | burstEnds
  /-- the watchers report no more, which also ends the burst that goes on -/
  | sourceEnds
  /-- a configuration was loaded -/
  | update (config : Config)
  /-- no more configurations are loaded -/
  | updatesEnd
  /-- the loop takes the queued batches -/
  | takeBatches
  /-- the loop takes a configuration; its watchers are restarted on these files, or not -/
  | takeUpdate (restart : Option Tree)
  /-- the running build ends -/
  | finish
  /-- the loop receives from the shutdown -/
  | shutdown (reception : Shutdown.Reception)

namespace WatchLoop

/-- The loop when it is entered. -/
def start (t : Tree) (cwd : Place) (root : Path) (config : Config) : WatchLoop :=
  { root
    cwd
    config
    source := .start t cwd root config.targets
    listens := config.watcher.watchConfig }

/-- All queued batches as one. -/
def drain (first : Batch) (rest : List Batch) : Batch := rest.foldl Batch.merge first

def isStopped (l : WatchLoop) : Bool :=
  match l.phase with
  | .stopped => true
  | _ => false

def takeBatches? (l : WatchLoop) : Option WatchLoop :=
  match l.phase, l.source.batches with
  | .waiting, first :: rest =>
    let batch := drain first rest
    some { l with
      source := { l.source with batches := [] }
      phase := .building (.changes batch) batch.categories.toList }
  | _, _ => none

def takeUpdate? (restart : Option Tree) (l : WatchLoop) : Option WatchLoop :=
  match l.phase, l.updates with
  | .waiting, config :: rest =>
    some { l with
      config
      updates := rest
      source := match restart with
        | some t => .start t l.cwd l.root config.targets
        | none => l.source
      phase := .building .reload config.categories }
  | _, _ => none

/-- The loop after an event, if the event can happen. -/
def step? (l : WatchLoop) (e : LoopEvent) : Option WatchLoop :=
  if l.isStopped then none
  else match e with
    | .change path => (l.source.see? path).map fun source => { l with source }
    | .burstEnds => some { l with source := l.source.endBurst }
    | .sourceEnds => some { l with source := { l.source.endBurst with isOpen := false } }
    | .update config => if l.listens then some { l with updates := l.updates ++ [config] } else none
    | .updatesEnd => some { l with listens := false }
    | .takeBatches => l.takeBatches?
    | .takeUpdate restart => l.takeUpdate? restart
    | .finish =>
      match l.phase with
      | .building _ _ => some { l with phase := .waiting }
      | _ => none
    | .shutdown reception => if reception.resolves then some { l with phase := .stopped } else none

end WatchLoop

end AssetWatch
