import AssetWatch.Proofs.Session.Reload

/-!
# Whether reloads are wanted

Whether configurations are taken is settled once, by the configuration that a session starts with.
While that wants no reloads, nothing changes. If it wants them, each configuration that is loaded is
taken, also behind one that wants no more; so a run obeys the settings in force exactly as long as
every configuration that another replaces wants reloads.
-/

namespace AssetWatch.WatchLoop

variable {l m : WatchLoop} {e : LoopEvent} {p : Passage} {ps qs rs : List Passage} {c : Config}

/-- A configuration is taken only while the one in force wants reloads. -/
def ObeysSettings (ps : List Passage) : Prop :=
  ∀ p ∈ ps, p.taken?.isSome = true → p.before.config.watcher.watchConfig = true

theorem Run.obeysSettings_iff (run : Run l ps m) : ObeysSettings ps ↔
    ∀ c ∈ (l.config :: ps.filterMap Passage.taken?).dropLast, c.watcher.watchConfig = true := by
  induction run with
  | refl => simp [ObeysSettings]
  | @step l m n e ps hs _ ih =>
    have config := config_step hs
    rw [ObeysSettings, List.forall_mem_cons, List.filterMap_cons]
    cases taken : (Passage.mk l e m).taken? with
    | none =>
      rw [taken] at config
      simp only [Option.isSome_none, Bool.false_eq_true, false_imp_iff, true_and]
      rwa [config] at ih
    | some c =>
      rw [taken] at config
      simp only [Option.isSome_some, true_imp_iff, List.dropLast_cons_cons, List.forall_mem_cons]
      rw [config] at ih
      exact and_congr_right fun _ => ih

/-! ## A loop that does not listen -/

structure Deaf (l : WatchLoop) : Prop where
  listens : l.listens = false
  updates : l.updates = []

theorem Deaf.step (deaf : l.Deaf) (h : l.step? e = some m) :
    m.Deaf ∧ (Passage.mk l e m).taken? = none := by
  obtain ⟨-, h⟩ := move_of_step? h
  cases h with
  | update _ listens => cases deaf.listens.symm.trans listens
  | takeUpdate _ _ _ _ queue => cases deaf.updates.symm.trans queue
  | updatesEnd => exact ⟨⟨rfl, deaf.updates⟩, rfl⟩
  | _ => exact ⟨⟨deaf.listens, deaf.updates⟩, rfl⟩

/-- Without new configurations, the one in force stays. -/
theorem Deaf.run (deaf : l.Deaf) (run : Run l ps m) :
    m.Deaf ∧ ps.filterMap Passage.taken? = [] ∧ ∀ p ∈ ps, p.after.config = l.config := by
  induction run with
  | refl => exact ⟨deaf, rfl, by simp⟩
  | @step l m n e ps hs _ ih =>
    obtain ⟨deaf, untaken⟩ := deaf.step hs
    obtain ⟨last, nothing, same⟩ := ih deaf
    have config : m.config = l.config := (kept_step hs untaken).1
    refine ⟨last, ?_, List.forall_mem_cons.2 ⟨config, fun p hp => (same p hp).trans config⟩⟩
    rw [List.filterMap_cons, untaken]
    exact nothing

/-! ## Which configurations are taken -/

private theorem listens_step (h : l.step? e = some m) :
    m.listens = true ↔ l.listens = true ∧ e ≠ .updatesEnd := by
  obtain ⟨-, h⟩ := move_of_step? h
  cases h <;> simp

/-- A loop listens until no more configurations are loaded. -/
theorem Run.listens_iff (run : Run l ps m) :
    m.listens = true ↔ l.listens = true ∧ ∀ p ∈ ps, p.event ≠ .updatesEnd := by
  induction run with
  | refl => simp
  | step hs _ ih => rw [ih, listens_step hs, List.forall_mem_cons, and_assoc]

structure Minds (c : Config) (ps : List Passage) (l : WatchLoop) : Prop where
  /-- the settings in force are obeyed unless a configuration without reloads is replaced -/
  obeys : ObeysSettings ps ↔
    ∀ c' ∈ (c :: ps.filterMap Passage.taken?).dropLast, c'.watcher.watchConfig = true
  /-- if the first configuration wants no reloads, it stays -/
  kept : c.watcher.watchConfig = false →
    l.config = c ∧ l.updates = [] ∧ ps.filterMap Passage.taken? = [] ∧ ∀ p ∈ ps, p.after.config = c
  /-- no later configuration has a say in whether more are taken -/
  listens : l.listens = true ↔ c.watcher.watchConfig = true ∧ ∀ p ∈ ps, p.event ≠ .updatesEnd
  /-- a loop that goes on queues what is loaded, whatever is in force -/
  queues : l.phase ≠ .stopped → l.listens = true → ∀ c',
    l.step? (.update c') = some { l with updates := l.updates ++ [c'] }
  /-- and takes what is queued once it waits -/
  takes : l.phase = .waiting → ∀ c' rest, l.updates = c' :: rest → ∀ restart,
    ∃ m, l.step? (.takeUpdate restart) = some m ∧ m.config = c'

private theorem Run.minds {t : Host.Tree} {cwd : Host.Place} {root : Path}
    (run : Run (start t cwd root c) ps l) : Minds c ps l where
  obeys := run.obeysSettings_iff
  kept unwanted := by
    have deaf : (start t cwd root c).Deaf := ⟨unwanted, rfl⟩
    obtain ⟨last, nothing, same⟩ := deaf.run run
    refine ⟨?_, last.updates, nothing, same⟩
    rw [run.config_eq, last?, nothing]
    rfl
  listens := run.listens_iff
  queues going listens c' := step?_eq_some_iff.2 ⟨going, .update c' listens⟩
  takes waiting c' rest queue restart := by
    have going : l.phase ≠ .stopped := fun stopped => by cases waiting.symm.trans stopped
    exact ⟨_, step?_eq_some_iff.2 ⟨going, .takeUpdate restart c' rest waiting queue⟩, rfl⟩

/-- Reloads are wanted or not by what a session starts with. One that starts without them keeps its
configuration, whatever is done to the file; one that starts with them obeys the settings in force
exactly as long as each configuration that is replaced wants reloads. -/
theorem reloads_mind_start (s : Session) :
    (∀ t cwd ps l, Run (start t cwd s.root s.config) ps l → Minds s.config ps l) ∧
    ∀ {σ : Type} (x : World σ) (ledger : Ledger σ) (w w' : Watching σ) (heard : FileReports),
      Watching.start s x ledger = .ok w → Watching.Turns x w heard w' →
      s.config.watcher.watchConfig = false → w'.loop.config = s.config ∧ w'.session = s := by
  refine ⟨fun _ _ _ _ run => run.minds, fun x ledger w w' heard started turns unwanted => ?_⟩
  have follows := (Watching.follows_start started).turns turns
  obtain ⟨ps, l, history, observation, same⟩ := follows.history
  obtain ⟨config, -⟩ := history.run.minds.kept unwanted
  have kept : w'.loop.config = s.config := by rw [same, config]
  refine ⟨kept, ?_⟩
  rw [follows.session, kept]
  rfl

/-! ## A reload behind one that wants no more -/

def lastWishes : FileReports :=
  let file : Path := ⟨"/p/config/bundler.toml"⟩
  [(⟨.modify, [file]⟩, .ok (Config.document "js" "live" ++ "[watcher]\nwatch_config=false\n")),
    (⟨.create, [file]⟩, .ok (Config.document "css" "test"))]

private theorem history_lastWishes : ∃ ps l c c',
    History (Watching.configWatch (Session.ofCategories ["js"]))
      (start {} [] ⟨"/p"⟩ (.ofCategories ["js"])) lastWishes ps l ∧
    ps.filterMap Passage.taken? = [c, c'] ∧ c.watcher.watchConfig = false ∧
    Config.parse (Config.document "css" "test") = .ok c' ∧ l.config = c' := by
  have unwanted : ((Config.parse (Config.document "js" "live" ++
      "[watcher]\nwatch_config=false\n")).toOption.any (!·.watcher.watchConfig)) = true := by
    decide +kernel
  obtain ⟨c, parsed, off⟩ := exists_of_any unwanted
  obtain ⟨c', parsed'⟩ := parse_styles
  let w := Watching.configWatch (Session.ofCategories ["js"])
  have passed : w.forward ⟨.modify, [⟨"/p/config/bundler.toml"⟩]⟩ _ = some c :=
    ConfigWatch.forward_of_parse (by decide +kernel) parsed
  have passed' : w.forward ⟨.create, [⟨"/p/config/bundler.toml"⟩]⟩ _ = some c' :=
    ConfigWatch.forward_of_parse (by decide +kernel) parsed'
  have step {l m : WatchLoop} {e : LoopEvent} (going : l.phase ≠ .stopped) (move : Move l e m) :
      l.step? e = some m := step?_eq_some_iff.2 ⟨going, move⟩
  exact ⟨_, _, c, c',
    .passed passed (step nofun (.update c rfl)) <|
    .step (step nofun (.takeUpdate none c [] rfl rfl)) trivial <|
    .step (step nofun (.finish _ _ rfl)) trivial <|
    .passed passed' (step nofun (.update c' rfl)) <|
    .step (step nofun (.takeUpdate none c' [] rfl rfl)) trivial (.refl _),
    rfl, by simpa using off, parsed', rfl⟩

theorem reloads_mind_start_lastWishes :
    let silent : Session := (Session.ofCategories ["js"]).replaceConfig
      { Config.ofCategories ["js"] with watcher := { watchConfig := false } }
    ∃ ps l w,
      History (Watching.configWatch (Session.ofCategories ["js"]))
        (start {} [] ⟨"/p"⟩ (.ofCategories ["js"])) lastWishes ps l ∧
      Minds (.ofCategories ["js"]) ps l ∧
      Watching.start silent World.still ⟨(.ofConfig "", []), {}⟩ = .ok w ∧
      (w.reload World.still (.ofConfig (Config.document "css" "test"))
        ⟨.modify, [⟨"/p/config/bundler.toml"⟩]⟩).session = silent := by
  intro silent
  obtain ⟨ps, l, c, c', history, -⟩ := history_lastWishes
  obtain ⟨w, started⟩ := exists_of_isSome
    (e := Watching.start silent World.still ⟨(.ofConfig "", []), {}⟩) (by decide +kernel)
  have turns := Watching.Turns.single (x := World.still)
    (.report (.ofConfig (Config.document "css" "test"))
      ⟨.modify, [⟨"/p/config/bundler.toml"⟩]⟩ w)
  obtain ⟨minds, -⟩ := reloads_mind_start (Session.ofCategories ["js"])
  have kept := (reloads_mind_start silent).2 World.still _ w _ _ started turns rfl
  exact ⟨ps, l, w, history, minds _ _ _ _ history.run, started, kept.2⟩

/-- A session takes a configuration although the one in force wants no reloads. -/
theorem reloads_despite_settings : ∃ ps l,
    History (Watching.configWatch (Session.ofCategories ["js"]))
      (start {} [] ⟨"/p"⟩ (.ofCategories ["js"])) lastWishes ps l ∧
    ¬ObeysSettings ps ∧ Config.parse (Config.document "css" "test") = .ok l.config := by
  obtain ⟨ps, l, c, c', history, taken, off, parsed, last⟩ := history_lastWishes
  refine ⟨ps, l, history, fun obeys => ?_, last ▸ parsed⟩
  have wanted := history.run.obeysSettings_iff.1 obeys c (by rw [taken]; simp)
  cases off.symm.trans wanted

end AssetWatch.WatchLoop
