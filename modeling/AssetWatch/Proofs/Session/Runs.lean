import AssetWatch.Session.Loop

/-!
# Runs of the watch loop

The step function of the loop as one rule for each event, and runs of the loop as the list of
what it passes through. A loop is reached from another exactly when a run leads there.
-/

namespace AssetWatch.WatchLoop

def restarted (l : WatchLoop) (restart : Option Host.Tree) (config : Config) : SourceWatch :=
  match restart with
  | some t => .start t l.cwd l.root config.targets
  | none => l.source

/-- What each event needs, and the loop it leads to. -/
inductive Move (l : WatchLoop) : LoopEvent → WatchLoop → Prop
  | change (path : Path) (isOpen : l.source.isOpen = true) :
      Move l (.change path)
        { l with source := { l.source with changes := l.source.changes ++ [path] } }
  | burstEnds : Move l .burstEnds { l with source := l.source.endBurst }
  | sourceEnds : Move l .sourceEnds { l with source := { l.source.endBurst with isOpen := false } }
  | update (config : Config) (listens : l.listens = true) :
      Move l (.update config) { l with updates := l.updates ++ [config] }
  | updatesEnd : Move l .updatesEnd { l with listens := false }
  | takeBatches (first : Batch) (rest : List Batch) (waiting : l.phase = .waiting)
      (queue : l.source.batches = first :: rest) :
      Move l .takeBatches { l with
        source := { l.source with batches := [] }
        phase := .building (.changes (drain first rest)) (drain first rest).categories.toList }
  | takeUpdate (restart : Option Host.Tree) (config : Config) (rest : List Config)
      (waiting : l.phase = .waiting) (queue : l.updates = config :: rest) :
      Move l (.takeUpdate restart) { l with
        config
        updates := rest
        source := l.restarted restart config
        phase := .building .reload config.categories }
  | finish (cause : Cause) (categories : List String)
      (building : l.phase = .building cause categories) :
      Move l .finish { l with phase := .waiting }
  | shutdown (reception : Shutdown.Reception) (resolves : reception.resolves = true) :
      Move l (.shutdown reception) { l with phase := .stopped }

theorem isStopped_iff {l : WatchLoop} : l.isStopped = true ↔ l.phase = .stopped := by
  unfold isStopped
  split <;> simp_all

theorem move_of_step? {l l' : WatchLoop} {e : LoopEvent} (h : l.step? e = some l') :
    l.phase ≠ .stopped ∧ Move l e l' := by
  unfold step? at h
  split at h
  · cases h
  · rename_i hs
    refine ⟨mt isStopped_iff.2 hs, ?_⟩
    cases e with
    | change path =>
      simp only [SourceWatch.see?] at h
      split at h
      · rename_i hopen
        cases h
        exact .change path hopen
      · cases h
    | burstEnds => cases h; exact .burstEnds
    | sourceEnds => cases h; exact .sourceEnds
    | update config =>
      simp only at h
      split at h
      · rename_i hl
        cases h
        exact .update config hl
      · cases h
    | updatesEnd => cases h; exact .updatesEnd
    | takeBatches =>
      simp only [takeBatches?] at h
      split at h
      · rename_i hp hq
        cases h
        exact .takeBatches _ _ hp hq
      · cases h
    | takeUpdate restart =>
      simp only [takeUpdate?] at h
      split at h
      · rename_i hp hq
        cases h
        exact .takeUpdate restart _ _ hp hq
      · cases h
    | finish =>
      simp only at h
      split at h
      · rename_i hp
        cases h
        exact .finish _ _ hp
      · cases h
    | shutdown reception =>
      simp only at h
      split at h
      · rename_i hr
        cases h
        exact .shutdown reception hr
      · cases h

/-- The step function is given by the rules, as long as the loop has not stopped. -/
theorem step?_eq_some_iff {l l' : WatchLoop} {e : LoopEvent} :
    l.step? e = some l' ↔ l.phase ≠ .stopped ∧ Move l e l' := by
  constructor
  · exact move_of_step?
  · rintro ⟨hs, h⟩
    have hs : l.isStopped = false := by
      rw [← Bool.not_eq_true, isStopped_iff]
      exact hs
    cases h with
    | change path isOpen => simp [step?, hs, SourceWatch.see?, isOpen]
    | burstEnds => simp [step?, hs]
    | sourceEnds => simp [step?, hs]
    | update config listens => simp [step?, hs, listens]
    | updatesEnd => simp [step?, hs]
    | takeBatches first rest waiting queue => simp [step?, hs, takeBatches?, waiting, queue]
    | takeUpdate restart config rest waiting queue =>
      simp only [step?, hs, takeUpdate?, waiting, queue]
      rfl
    | finish cause categories building => simp [step?, hs, building]
    | shutdown reception resolves => simp [step?, hs, resolves]

structure Passage where
  before : WatchLoop
  event : LoopEvent
  after : WatchLoop

/-- A loop passes through some events to another loop, the first event in front. -/
inductive Run : WatchLoop → List Passage → WatchLoop → Prop
  | refl (l : WatchLoop) : Run l [] l
  | step {l m n : WatchLoop} {e : LoopEvent} {ps : List Passage} :
      l.step? e = some m → Run m ps n → Run l (⟨l, e, m⟩ :: ps) n

namespace Run

variable {l m n : WatchLoop} {p : Passage} {ps qs : List Passage}

theorem trans (h : Run l ps m) (h' : Run m qs n) : Run l (ps ++ qs) n := by
  induction h with
  | refl => exact h'
  | step hs _ ih => exact .step hs (ih h')

private theorem exists_mid (h : Run l (ps ++ qs) n) : ∃ m, Run l ps m ∧ Run m qs n := by
  induction ps generalizing l with
  | nil => exact ⟨l, .refl l, h⟩
  | cons p ps ih =>
    cases h with
    | step hs h =>
      obtain ⟨m, hm, hn⟩ := ih h
      exact ⟨m, .step hs hm, hn⟩

/-- A run that passes through an event is a step with a run before and after it. -/
theorem exists_step (h : Run l (ps ++ p :: qs) n) :
    Run l ps p.before ∧ p.before.step? p.event = some p.after ∧ Run p.after qs n := by
  obtain ⟨m, hm, hn⟩ := h.exists_mid
  cases hn with
  | step hs hn => exact ⟨hm, hs, hn⟩

theorem step_of_mem (h : Run l ps n) (hp : p ∈ ps) : p.before.step? p.event = some p.after := by
  obtain ⟨before, after, rfl⟩ := List.append_of_mem hp
  exact h.exists_step.2.1

end Run

/-- Events that can happen one after another make a run. -/
theorem exists_run {l n : WatchLoop} {events : List LoopEvent}
    (h : events.foldlM step? l = some n) : ∃ ps, ps.map Passage.event = events ∧ Run l ps n := by
  induction events generalizing l with
  | nil =>
    obtain rfl : l = n := by simpa using h
    exact ⟨[], rfl, .refl l⟩
  | cons e events ih =>
    rw [List.foldlM_cons, Option.bind_eq_bind, Option.bind_eq_some_iff] at h
    obtain ⟨m, hm, hn⟩ := h
    obtain ⟨ps, hps, hrun⟩ := ih hn
    exact ⟨⟨l, e, m⟩ :: ps, by rw [List.map_cons, hps], .step hm hrun⟩

end AssetWatch.WatchLoop
