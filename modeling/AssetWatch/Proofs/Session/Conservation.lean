import AssetWatch.Proofs.Config.Validity
import AssetWatch.Proofs.Session.Runs
import AssetWatch.Proofs.Watch.Batches

/-!
# No change is lost

Every batch that arrives leaves the queue once, merged with all that is queued into a build that
starts then, or because the watchers are replaced for another configuration; then everything of
that configuration is built. One build runs at a time, and nothing is taken while it runs.
-/

namespace AssetWatch

def Config.ofCategories (categories : List String) : Config where
  targets := {
    entrypointFolders := .ofList (categories.map fun name => (name, ⟨name⟩))
    watch := .ofList (categories.map fun name => (name, [⟨name⟩])) }
  strategy := { kind := .singleBatchedExecution, commands := .ofList [("test", "bundle")] }

def SourceWatch.burst (w : SourceWatch) : List Batch :=
  let batch := Batch.ofPaths w.matcher w.changes
  if batch.isEmpty then [] else [batch]

theorem SourceWatch.batches_endBurst (w : SourceWatch) :
    w.endBurst.batches = w.batches ++ w.burst := by
  simp only [endBurst, burst]
  split <;> simp

def LoopEvent.takes : LoopEvent → Bool
  | .takeBatches | .takeUpdate _ => true
  | _ => false

def LoopEvent.finishes : LoopEvent → Bool
  | .finish => true
  | _ => false

namespace WatchLoop

private theorem mem_drain {first : Batch} {rest : List Batch} {name : String} :
    name ∈ (drain first rest).categories.toList ↔
      ∃ b ∈ first :: rest, name ∈ b.categories.toList :=
  Batch.mem_categories_foldl_merge

namespace Passage

/-- The batches that arrive with an event. -/
def arrivals (p : Passage) : List Batch :=
  match p.event with
  | .burstEnds | .sourceEnds => p.before.source.burst
  | _ => []

/-- The batches in front of the queue that are not in it any more after an event. -/
def departures (p : Passage) : List Batch :=
  let total := p.before.source.batches.length + p.arrivals.length
  p.before.source.batches.take (total - p.after.source.batches.length)

def loaded (p : Passage) : List Config :=
  match p.event with
  | .update config => [config]
  | _ => []

/-- Everything that is queued is merged into one build, which starts. -/
structure Merges (p : Passage) : Prop where
  idle : p.before.phase = .waiting
  all : p.departures = p.before.source.batches
  nonempty : p.departures ≠ []
  build : ∃ batch : Batch,
    p.after.phase = .building (.changes batch) batch.categories.toList ∧
    batch.categories.toList.Nodup ∧
    ∀ name, name ∈ batch.categories.toList ↔ ∃ b ∈ p.departures, name ∈ b.categories.toList

/-- A configuration comes into force, and a build of all its categories starts. Watchers that
cannot be restarted stay, with their queue; others are replaced. -/
structure Reloads (p : Passage) (restart : Option Host.Tree) : Prop where
  idle : p.before.phase = .waiting
  first : p.before.updates = p.after.config :: p.after.updates
  build : p.after.phase = .building .reload p.after.config.categories
  nodup : p.after.config.categories.Nodup
  every : ∀ name, name ∈ p.after.config.categories ↔
    name ∈ p.after.config.targets.entrypointFolders.keys ∨
    name ∈ p.after.config.targets.watch.keys
  kept : restart = none → p.after.source = p.before.source ∧ p.departures = []
  replaced : ∀ t, restart = some t → p.departures = p.before.source.batches ∧
    p.after.source = .start t p.before.cwd p.before.root p.after.config.targets

end Passage

/-! ## What one event preserves -/

section Step

variable {l l' : WatchLoop} {e : LoopEvent}

/-- Batches only arrive behind the queue, and only leave from its front. -/
theorem queue_step (h : l.step? e = some l') :
    l.source.batches ++ (Passage.mk l e l').arrivals =
      (Passage.mk l e l').departures ++ l'.source.batches := by
  obtain ⟨-, h⟩ := move_of_step? h
  cases h with
  | burstEnds | sourceEnds =>
    simp [Passage.departures, Passage.arrivals, SourceWatch.batches_endBurst]
  | takeUpdate restart config rest waiting queue =>
    cases restart <;> simp [Passage.departures, Passage.arrivals, restarted, SourceWatch.start]
  | _ => simp [Passage.departures, Passage.arrivals]

/-- Unless the loop takes something, the queue keeps all it has. -/
theorem departures_eq_nil (h : l.step? e = some l') (ht : e.takes = false) :
    (Passage.mk l e l').departures = [] := by
  obtain ⟨-, h⟩ := move_of_step? h
  cases h with
  | burstEnds | sourceEnds =>
    simp [Passage.departures, Passage.arrivals, SourceWatch.batches_endBurst]
  | takeBatches | takeUpdate => cases ht
  | _ => simp [Passage.departures, Passage.arrivals]

theorem merges_step (h : l.step? .takeBatches = some l') :
    (Passage.mk l .takeBatches l').Merges := by
  obtain ⟨-, h⟩ := move_of_step? h
  cases h with
  | takeBatches first rest waiting queue =>
    exact {
      idle := waiting
      all := by simp [Passage.departures, Passage.arrivals]
      nonempty := by simp [Passage.departures, Passage.arrivals, queue]
      build := by
        refine ⟨drain first rest, rfl, Sorted.nodup_toList _, ?_⟩
        intro name
        simp [mem_drain, Passage.departures, Passage.arrivals, queue] }

theorem reloads_step {restart : Option Host.Tree} (h : l.step? (.takeUpdate restart) = some l') :
    (Passage.mk l (.takeUpdate restart) l').Reloads restart := by
  obtain ⟨-, h⟩ := move_of_step? h
  cases h with
  | takeUpdate _ config rest waiting queue =>
    exact {
      idle := waiting
      first := queue
      build := rfl
      nodup := config.nodup_categories
      every := fun _ => Config.mem_categories
      kept := by
        rintro rfl
        simp [restarted, Passage.departures, Passage.arrivals]
      replaced := by
        rintro t rfl
        simp [restarted, Passage.departures, Passage.arrivals, SourceWatch.start] }

end Step

/-! ## What runs preserve -/

def inFlight (l : WatchLoop) : Nat :=
  match l.phase with
  | .building _ _ => 1
  | _ => 0

private theorem inFlight_le (l : WatchLoop) : l.inFlight ≤ 1 := by
  unfold inFlight
  split <;> simp

namespace Run

variable {l m n : WatchLoop} {p : Passage} {ps qs rs : List Passage}

/-- Nothing happens to a loop that has stopped. -/
theorem of_stopped (h : Run l ps n) (stopped : l.phase = .stopped) : ps = [] ∧ n = l := by
  cases h with
  | refl => exact ⟨rfl, rfl⟩
  | step hs => exact absurd stopped (move_of_step? hs).1

theorem queue (h : Run l ps n) :
    l.source.batches ++ ps.flatMap Passage.arrivals =
      ps.flatMap Passage.departures ++ n.source.batches := by
  induction h with
  | refl => simp
  | step hs _ ih =>
    rw [List.flatMap_cons, List.flatMap_cons, ← List.append_assoc, queue_step hs,
      List.append_assoc, ih, List.append_assoc]

/-- Builds are started and ended by turns. -/
theorem serial (h : Run l ps n) :
    ps.countP (·.event.finishes) ≤ ps.countP (·.event.takes) + l.inFlight ∧
      ps.countP (·.event.takes) + l.inFlight ≤ ps.countP (·.event.finishes) + 1 := by
  induction h with
  | refl l => simpa using l.inFlight_le
  | @step l m n e ps hs hrun ih =>
    simp only [List.countP_cons]
    obtain ⟨-, hmove⟩ := move_of_step? hs
    cases hmove with
    | shutdown =>
      obtain ⟨rfl, -⟩ := hrun.of_stopped rfl
      simpa [LoopEvent.takes, LoopEvent.finishes] using l.inFlight_le
    | takeBatches first rest idle | takeUpdate restart config rest idle =>
      generalize ps.countP (·.event.takes) = taken, ps.countP (·.event.finishes) = ended at ih ⊢
      simp only [inFlight, LoopEvent.takes, LoopEvent.finishes, idle] at ih ⊢
      simp only [Bool.false_eq_true, if_true, if_false]
      omega
    | finish cause categories building =>
      generalize ps.countP (·.event.takes) = taken, ps.countP (·.event.finishes) = ended at ih ⊢
      simp only [inFlight, LoopEvent.takes, LoopEvent.finishes, building] at ih ⊢
      simp only [Bool.false_eq_true, if_true, if_false]
      omega
    | _ => simpa [inFlight, LoopEvent.takes, LoopEvent.finishes] using ih

end Run

/-- While a build goes on nothing is taken, and what arrives waits behind what is queued. -/
structure Holds (l : WatchLoop) (ps : List Passage) (n : WatchLoop) : Prop where
  takesNothing : ∀ p ∈ ps, p.event.takes = false
  batches : n.source.batches = l.source.batches ++ ps.flatMap Passage.arrivals
  updates : n.updates = l.updates ++ ps.flatMap Passage.loaded
  phase : n.phase = l.phase ∨ n.phase = .stopped

theorem Run.holds {l n : WatchLoop} {ps : List Passage} {cause : Cause} {categories : List String}
    (h : Run l ps n) (building : l.phase = .building cause categories)
    (going : ∀ p ∈ ps, p.event.finishes = false) : Holds l ps n := by
  induction h with
  | refl => exact ⟨by simp, by simp, by simp, .inl rfl⟩
  | @step l m n e ps hs hrun ih =>
    obtain ⟨hfirst, hrest⟩ := List.forall_mem_cons.1 going
    have hqueue (ht : e.takes = false) : m.source.batches = l.source.batches ++
        (Passage.mk l e m).arrivals := by
      rw [queue_step hs, departures_eq_nil hs ht, List.nil_append]
    have extend (ht : e.takes = false) (hm : m.phase = l.phase)
        (hu : m.updates = l.updates ++ (Passage.mk l e m).loaded) : Holds l (⟨l, e, m⟩ :: ps) n := by
      have later := ih (hm.trans building) hrest
      exact {
        takesNothing := List.forall_mem_cons.2 ⟨ht, later.takesNothing⟩
        batches := by rw [later.batches, hqueue ht, List.flatMap_cons, List.append_assoc]
        updates := by rw [later.updates, hu, List.flatMap_cons, List.append_assoc]
        phase := by rw [← hm]; exact later.phase }
    obtain ⟨-, hmove⟩ := move_of_step? hs
    cases hmove with
    | change | burstEnds | sourceEnds | update | updatesEnd =>
      exact extend rfl rfl (by simp [Passage.loaded])
    | takeBatches first rest waiting => rw [building] at waiting; cases waiting
    | takeUpdate restart config rest waiting => rw [building] at waiting; cases waiting
    | finish => cases hfirst
    | shutdown =>
      obtain ⟨rfl, rfl⟩ := hrun.of_stopped rfl
      exact ⟨by simp [LoopEvent.takes], by simp [Passage.arrivals], by simp [Passage.loaded], .inr rfl⟩

/-- What becomes of the batches and the configurations over a run that begins with nothing. -/
structure Accounted (ps : List Passage) (l : WatchLoop) : Prop where
  /-- each batch that arrived has left the queue once, or is still in it, all in order -/
  conserved : ps.flatMap Passage.arrivals = ps.flatMap Passage.departures ++ l.source.batches
  /-- batches leave for a build, or because a configuration replaces the watchers -/
  departs : ∀ p ∈ ps, p.departures ≠ [] →
    p.event = .takeBatches ∨ ∃ t, p.event = .takeUpdate (some t)
  merges : ∀ p ∈ ps, p.event = .takeBatches → p.Merges
  reloads : ∀ p ∈ ps, ∀ restart, p.event = .takeUpdate restart → p.Reloads restart
  /-- at most one build goes on -/
  serial : ps.countP (·.event.finishes) ≤ ps.countP (·.event.takes) ∧
    ps.countP (·.event.takes) ≤ ps.countP (·.event.finishes) + 1
  /-- from the start of a build to its end nothing is taken, and what arrives waits -/
  holds : ∀ qs p rs, ps = qs ++ p :: rs → p.event.takes = true →
    (∀ r ∈ rs, r.event.finishes = false) → Holds p.after rs l
  /-- what is queued can be taken once no build goes on -/
  ready : l.phase = .waiting → l.source.batches ≠ [] → ∃ l', l.step? .takeBatches = some l'

private theorem departs_takes {p : Passage} (h : p.before.step? p.event = some p.after)
    (hd : p.departures ≠ []) :
    p.event = .takeBatches ∨ ∃ t, p.event = .takeUpdate (some t) := by
  obtain ⟨l, e, l'⟩ := p
  have ht : e.takes = true := by
    rw [← Bool.not_eq_false]
    exact fun ht => hd (departures_eq_nil h ht)
  cases e with
  | takeBatches => exact .inl rfl
  | takeUpdate restart =>
    cases restart with
    | none => exact absurd ((reloads_step h).kept rfl).2 hd
    | some t => exact .inr ⟨t, rfl⟩
  | _ => cases ht

private theorem building_of_takes {p : Passage} (h : p.before.step? p.event = some p.after)
    (ht : p.event.takes = true) : ∃ cause categories, p.after.phase = .building cause categories := by
  obtain ⟨l, e, l'⟩ := p
  cases e with
  | takeBatches =>
    obtain ⟨batch, hphase, -⟩ := (merges_step h).build
    exact ⟨_, _, hphase⟩
  | takeUpdate restart => exact ⟨_, _, (reloads_step h).build⟩
  | _ => cases ht

/-- The loop loses no change, however its events follow one another. -/
theorem run_loses_no_change {t : Host.Tree} {cwd : Host.Place} {root : Path} {config : Config}
    {ps : List Passage} {l : WatchLoop} (run : Run (start t cwd root config) ps l) :
    Accounted ps l where
  conserved := by simpa [start, SourceWatch.start] using run.queue
  departs p hp := departs_takes (run.step_of_mem hp)
  merges p hp he := by
    obtain ⟨before, event, after⟩ := p
    obtain rfl : event = .takeBatches := he
    exact merges_step (run.step_of_mem hp)
  reloads p hp restart he := by
    obtain ⟨before, event, after⟩ := p
    obtain rfl : event = .takeUpdate restart := he
    exact reloads_step (run.step_of_mem hp)
  serial := by simpa [start, inFlight] using run.serial
  holds qs p rs hps ht going := by
    subst hps
    obtain ⟨-, hs, hrun⟩ := run.exists_step
    obtain ⟨cause, categories, building⟩ := building_of_takes hs ht
    exact hrun.holds building going
  ready waiting hq := by
    obtain ⟨first, rest, hq⟩ := List.exists_cons_of_ne_nil hq
    exact ⟨_, step?_eq_some_iff.2 ⟨by simp [waiting], .takeBatches first rest waiting hq⟩⟩

def reloading : List LoopEvent := [
  .change ⟨"/p/js/a.js"⟩, .burstEnds, .takeBatches,
  .change ⟨"/p/js/b.js"⟩, .burstEnds, .update (.ofCategories ["css"]), .finish,
  .takeUpdate none, .update (.ofCategories ["css", "js"]), .finish,
  .takeUpdate (some {}), .change ⟨"/p/css/c.css"⟩, .sourceEnds, .finish,
  .takeBatches, .shutdown .closed]

theorem run_loses_no_change_reloading : ∃ ps l, ps.map Passage.event = reloading ∧
    Run (start {} [] ⟨"/p"⟩ (.ofCategories ["js"])) ps l ∧ Accounted ps l := by
  have happens : ∃ l, reloading.foldlM step? (start {} [] ⟨"/p"⟩ (.ofCategories ["js"])) = some l :=
    ⟨_, rfl⟩
  obtain ⟨l, h⟩ := happens
  obtain ⟨ps, events, run⟩ := exists_run h
  exact ⟨ps, l, events, run, run_loses_no_change run⟩

end WatchLoop

end AssetWatch
