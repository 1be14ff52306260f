import AssetWatch.Proofs.Session.Admission
import AssetWatch.Proofs.Session.Closure

/-!
# Watchers and the configuration in force

A reload puts a configuration in force first and restarts the watchers then. Watchers that cannot
be restarted stay, and report what the configuration names that they were started for. So what is
built after changes is named by that configuration, and by the one in force if the watchers could
be restarted for it.
-/

namespace AssetWatch

namespace WatchLoop

def Passage.watched? (p : Passage) : Option Config :=
  match p.event with
  | .takeUpdate (some _) => some p.after.config
  | _ => none

/-- The watchers match the folders of a configuration, and what waits names only its categories. -/
structure Watches (l : WatchLoop) (c : Config) : Prop where
  matcher : ∃ t, l.source.matcher = .ofTargets t l.cwd l.root c.targets
  batches : ∀ b ∈ l.source.batches, b.categories.toList ⊆ c.categories

section Runs

variable {l m : WatchLoop} {e : LoopEvent} {ps : List Passage} {c : Config}

theorem Watches.burst (watches : l.Watches c) :
    ∀ b ∈ l.source.burst, b.categories.toList ⊆ c.categories := by
  intro b hb name hn
  obtain ⟨t, hm⟩ := watches.matcher
  simp only [SourceWatch.burst] at hb
  split at hb
  · cases hb
  · obtain rfl := List.mem_singleton.1 hb
    obtain ⟨path, -, affected⟩ := Batch.mem_categories_ofPaths.1 hn
    rw [hm] at affected
    exact Config.mem_categories.2 (Matcher.mem_keys_of_categoriesFor affected)

theorem Watches.endBurst (watches : l.Watches c) :
    ∀ b ∈ l.source.endBurst.batches, b.categories.toList ⊆ c.categories := by
  rw [SourceWatch.batches_endBurst]
  exact List.forall_mem_append.2 ⟨watches.batches, watches.burst⟩

theorem Watches.step (watches : l.Watches c) (h : l.step? e = some m) :
    m.Watches (((Passage.mk l e m).watched?).getD c) := by
  obtain ⟨-, h⟩ := move_of_step? h
  cases h with
  | burstEnds | sourceEnds => exact ⟨watches.matcher, watches.endBurst⟩
  | takeBatches => exact ⟨watches.matcher, by simp⟩
  | takeUpdate restart config rest =>
    cases restart with
    | none => exact ⟨watches.matcher, watches.batches⟩
    | some t => exact ⟨⟨t, rfl⟩, by simp [restarted, SourceWatch.start]⟩
  | _ => exact ⟨watches.matcher, watches.batches⟩

/-- The watchers are always those of the configuration for which they were started last. -/
theorem Run.watches (run : Run l ps m) (watches : l.Watches c) :
    m.Watches ((last? Passage.watched? ps).getD c) := by
  induction run generalizing c with
  | refl => exact watches
  | step hs _ ih =>
    rw [last?_cons]
    exact ih (watches.step hs)

end Runs

/-- How a batch that is taken fits the watchers that reported it and the configuration in force. -/
structure Coherent (first : Config) (ps : List Passage) (current : Config) (batch : Batch) : Prop where
  /-- the configuration that the watchers were started for names what they report -/
  reported : batch.categories.toList ⊆ ((last? Passage.watched? ps).getD first).categories
  /-- if they were restarted for the configuration that was taken last, the one in force does, and
  no build is refused as unknown -/
  restarted : last? Passage.watched? ps = last? Passage.taken? ps →
    batch.categories.toList ⊆ current.categories ∧
    ∀ {σ : Type} (s : Session) (x : Executor σ) (ledger : Ledger σ) (name : String),
      ((s.build x batch.categories.toList ledger).under current).1 ≠
        .error (.discovery (.unknownCategory name))
  /-- otherwise a build may be, for a category of the batch that only the watchers know -/
  unknown : ∀ {σ : Type} (s : Session) (x : Executor σ) (ledger : Ledger σ) (name : String),
    ((s.build x batch.categories.toList ledger).under current).1 =
        .error (.discovery (.unknownCategory name)) →
      name ∈ batch.categories.toList ∧
      name ∈ ((last? Passage.watched? ps).getD first).categories ∧ name ∉ current.categories

private theorem unknown_of_build {σ : Type} {s : Session} {x : Executor σ} {ledger : Ledger σ}
    {c : Config}
    {names : List String} {name : String} (valid : c.validate = .ok ())
    (h : ((s.build x names ledger).under c).1 = .error (.discovery (.unknownCategory name))) :
    name ∈ names ∧ name ∉ c.categories := by
  have refused : (s.plan x ledger.state names).under c =
      .error (.discovery (.unknownCategory name)) := Session.plan_of_build_error h
  rcases Config.refuses_or_unknown valid refused with refuses | ⟨found, hn, unknown, he⟩
  · cases refuses with
    | unreadable _ _ h => cases h
  · cases he
    exact ⟨hn, unknown⟩

/-- What is built after changes is named by the configuration that the watchers were started for,
which is the one in force unless they could not be restarted. -/
theorem takeBatches_coherent {t : Host.Tree} {cwd : Host.Place} {root : Path} {first : Config}
    {ps : List Passage} {l l' : WatchLoop} (valid : first.validate = .ok ())
    (run : Run (start t cwd root first) ps l)
    (loads : ∀ p ∈ ps, p.event.Loads fun c => c.validate = .ok ())
    (taken : l.step? .takeBatches = some l') :
    ∃ batch, l'.phase = .building (.changes batch) batch.categories.toList ∧
      Coherent first ps l'.config batch := by
  have watches := run.watches (c := first) ⟨⟨t, rfl⟩, by simp [start, SourceWatch.start]⟩
  have holding : Holding (fun c => c.validate = .ok ()) l' :=
    (run.holding ⟨valid, by simp [start]⟩ loads).step (e := .takeBatches) trivial taken
  have current : l'.config = (last? Passage.taken? ps).getD first := by
    rw [config_step taken, run.config_eq]
    rfl
  have merges := merges_step taken
  obtain ⟨batch, phase, -, mem⟩ := merges.build
  have reported : batch.categories.toList ⊆ ((last? Passage.watched? ps).getD first).categories := by
    intro name hn
    obtain ⟨b, hb, hn⟩ := (mem name).1 hn
    rw [merges.all] at hb
    exact watches.batches b hb hn
  have unknown {σ : Type} {s : Session} {x : Executor σ} {ledger : Ledger σ} {name : String}
      (h : ((s.build x batch.categories.toList ledger).under l'.config).1 =
        .error (.discovery (.unknownCategory name))) := unknown_of_build holding.config h
  refine ⟨batch, phase, reported, fun same => ?_, fun s x ledger name h => ?_⟩
  · rw [same, ← current] at reported
    refine ⟨reported, fun s x ledger name h => ?_⟩
    obtain ⟨hn, lacks⟩ := unknown h
    exact lacks (reported hn)
  · obtain ⟨hn, lacks⟩ := unknown h
    exact ⟨hn, reported hn, lacks⟩

def keptWatchers : List LoopEvent := [
  .update (.ofCategories ["css"]), .takeUpdate none, .finish, .change ⟨"/p/js/app"⟩, .burstEnds]

private theorem valid_both : (Config.ofCategories ["css", "js"]).validate = .ok () :=
  Config.validate_eq_ok_iff.2 (by decide +kernel)

private theorem loads_keptWatchers : ∀ e ∈ keptWatchers, e.Loads fun c => c.validate = .ok () := by
  have valid : (Config.ofCategories ["css"]).validate = .ok () :=
    Config.validate_eq_ok_iff.2 (by decide +kernel)
  simp [keptWatchers, LoopEvent.Loads, valid]

theorem takeBatches_coherent_kept : ∃ ps l l' batch, ps.map Passage.event = keptWatchers ∧
    Run (start {} [] ⟨"/p"⟩ (.ofCategories ["css", "js"])) ps l ∧
    (∀ p ∈ ps, p.event.Loads fun c => c.validate = .ok ()) ∧
    l.step? .takeBatches = some l' ∧
    l'.phase = .building (.changes batch) batch.categories.toList ∧
    Coherent (.ofCategories ["css", "js"]) ps l'.config batch := by
  have happens : ∃ l, keptWatchers.foldlM step? (start {} [] ⟨"/p"⟩ (.ofCategories ["css", "js"])) =
      some l ∧ ∃ l', l.step? .takeBatches = some l' := ⟨_, rfl, _, rfl⟩
  obtain ⟨l, hl, l', taken⟩ := happens
  obtain ⟨ps, events, run⟩ := exists_run hl
  have loads : ∀ p ∈ ps, p.event.Loads fun c => c.validate = .ok () :=
    fun p hp => loads_keptWatchers _ (events ▸ List.mem_map_of_mem hp)
  obtain ⟨batch, h⟩ := takeBatches_coherent valid_both run loads taken
  exact ⟨ps, l, l', batch, events, run, loads, taken, h⟩

/-- Scripts are not configured any more, and the build of their changes is refused as unknown. -/
theorem takeBatches_unknown : ∃ l l' batch,
    (Config.ofCategories ["css", "js"]).validate = .ok () ∧
    (∀ e ∈ keptWatchers, e.Loads fun c => c.validate = .ok ()) ∧
    keptWatchers.foldlM step? (start {} [] ⟨"/p"⟩ (.ofCategories ["css", "js"])) = some l ∧
    l.step? .takeBatches = some l' ∧
    l'.phase = .building (.changes batch) batch.categories.toList ∧
    batch.categories.toList = ["js"] ∧ l'.config.categories = ["css"] ∧
    (((Session.ofCategories ["css"]).build .noting batch.categories.toList
      ⟨(.ofFolders ["css", "js"], []), {}⟩).under l'.config).1 =
        .error (.discovery (.unknownCategory "js")) := by
  refine ⟨_, _, _, valid_both, loads_keptWatchers, rfl, rfl, rfl, ?_, ?_, rfl⟩
  · decide +kernel
  · decide +kernel

end WatchLoop

end AssetWatch
