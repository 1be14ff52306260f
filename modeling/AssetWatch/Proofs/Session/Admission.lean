import AssetWatch.Proofs.Session.Planning
import AssetWatch.Startup

/-!
# Which configurations come into force

Startup takes a configuration that is valid and has a command for the environment; a reload takes
every valid one. So a watching session stays valid whatever is done to the configuration file,
and startup would bring it up again exactly as long as the configuration that was taken last has
a command. While it has none, every build ends with the error that startup would end with.
-/

namespace AssetWatch

structure Config.Startable (c : Config) (env : Environment) : Prop where
  valid : c.validate = .ok ()
  command : ∃ program, c.strategy.commandFor env = .ok program

/-! ## Startup -/

namespace StartupOptions

variable {σ : Type} {o : StartupOptions} {x : Executor σ} {state : σ} {s : Session}

private theorem load_eq_ok {tree : Host.Tree} {cwd : Host.Place} (h : o.load tree cwd = .ok s) :
    s.config.validate = .ok () ∧ s.environment = o.environment := by
  simp only [load, bind_eq_ok_iff, mapError_eq_ok_iff] at h
  obtain ⟨root, -, config, loaded, same⟩ := h
  cases same
  exact ⟨Config.validate_of_ofReading loaded, rfl⟩

private theorem bootstrap_of_load (h : o.load (x.tree state) x.cwd = .ok s) :
    (o.bootstrap x state).result = (o.prepare x s state).1 := by
  rw [bootstrap, h]

/-- The project that was found comes up, unless its environment has no command or the setup
fails. -/
theorem prepare_eq_ok {s' : Session} (h : (o.prepare x s state).1 = .ok s') :
    s' = s ∧ ∃ program, s.config.strategy.commandFor o.environment = .ok program := by
  unfold prepare at h
  split at h
  · cases h
  · rename_i program hp
    refine ⟨?_, program, hp⟩
    split at h
    · cases h
      rfl
    · rename_i command _
      cases hr : runSetup x.machine command s.root state with
      | mk result state' =>
        rw [hr] at h
        cases result with
        | error e => cases h
        | ok u => cases h; rfl

/-- Without a setup command, a project with a command comes up as it was found. -/
theorem bootstrap_of_noSetup {program : String} (found : o.load (x.tree state) x.cwd = .ok s)
    (command : s.config.strategy.commandFor o.environment = .ok program)
    (none : o.setupOf s = none) : (o.bootstrap x state).result = .ok s := by
  rw [bootstrap_of_load found, prepare, command, none]

/-- Every project that was brought up has a valid configuration with a command. -/
theorem startable_of_bootstrap (h : (o.bootstrap x state).result = .ok s) :
    s.config.Startable s.environment := by
  cases hl : o.load (x.tree state) x.cwd with
  | error e => rw [bootstrap, hl] at h; cases h
  | ok found =>
    rw [bootstrap_of_load hl] at h
    obtain ⟨rfl, command⟩ := prepare_eq_ok h
    obtain ⟨valid, environment⟩ := load_eq_ok hl
    exact ⟨valid, by rwa [environment]⟩

/-- A project whose environment has no command is not brought up. -/
theorem bootstrap_of_noCommand {error : UnknownEnvironment}
    (hl : o.load (x.tree state) x.cwd = .ok s)
    (hc : s.config.strategy.commandFor s.environment = .error error) :
    (o.bootstrap x state).result = .error (.environment error) := by
  rw [(load_eq_ok hl).2] at hc
  rw [bootstrap_of_load hl, prepare, hc]

end StartupOptions

/-! ## Reloads -/

namespace LoopEvent

/-- The event loads no configuration but some with a property. -/
def Loads (P : Config → Prop) : LoopEvent → Prop
  | .update config => P config
  | _ => True

theorem Loads.imp {P Q : Config → Prop} {e : LoopEvent} (h : e.Loads P) (imp : ∀ {c}, P c → Q c) :
    e.Loads Q := by
  cases e with
  | update config => exact imp h
  | _ => trivial

/-- A configuration that is loaded was read after a report about the configuration file. -/
def IsLoadedBy (w : ConfigWatch) : LoopEvent → Prop :=
  Loads fun config => ∃ e reading, w.forward e reading = some config

private theorem valid_of_isLoadedBy {w : ConfigWatch} {e : LoopEvent} (h : e.IsLoadedBy w) :
    e.Loads fun c => c.validate = .ok () :=
  h.imp fun ⟨_, _, forwarded⟩ => ConfigWatch.validate_of_forward forwarded

end LoopEvent

namespace WatchLoop

def Passage.taken? (p : Passage) : Option Config :=
  match p.event with
  | .takeUpdate _ => some p.after.config
  | _ => none

def last? (f : Passage → Option Config) (ps : List Passage) : Option Config :=
  (ps.filterMap f).getLast?

theorem last?_cons {f : Passage → Option Config} {p : Passage} {ps : List Passage} {c : Config} :
    (last? f (p :: ps)).getD c = (last? f ps).getD ((f p).getD c) := by
  rw [last?, last?, List.filterMap_cons]
  cases f p with
  | none => rfl
  | some found => rw [List.getLast?_cons]; rfl

structure Holding (P : Config → Prop) (l : WatchLoop) : Prop where
  config : P l.config
  updates : ∀ c ∈ l.updates, P c

section Runs

variable {P : Config → Prop} {l m : WatchLoop} {e : LoopEvent} {ps : List Passage}

theorem Holding.step (holds : Holding P l) (loads : e.Loads P) (h : l.step? e = some m) :
    Holding P m := by
  obtain ⟨-, h⟩ := move_of_step? h
  cases h with
  | update config =>
    refine ⟨holds.config, fun c hc => ?_⟩
    rcases List.mem_append.1 hc with hc | hc
    · exact holds.updates c hc
    · obtain rfl := List.mem_singleton.1 hc
      exact loads
  | takeUpdate restart config rest waiting queue =>
    obtain ⟨first, others⟩ := List.forall_mem_cons.1 (queue ▸ holds.updates)
    exact ⟨first, others⟩
  | _ => exact ⟨holds.config, holds.updates⟩

/-- What holds of the first configuration and of all that are loaded holds of each that is in
force. -/
theorem Run.holding (run : Run l ps m) (holds : Holding P l) (loads : ∀ p ∈ ps, p.event.Loads P) :
    Holding P m := by
  induction run with
  | refl => exact holds
  | step hs _ ih =>
    obtain ⟨first, rest⟩ := List.forall_mem_cons.1 loads
    exact ih (holds.step first hs) rest

theorem config_step (h : l.step? e = some m) :
    m.config = ((Passage.mk l e m).taken?).getD l.config := by
  obtain ⟨-, h⟩ := move_of_step? h
  cases h <;> rfl

/-- The configuration in force is the one that was taken last. -/
theorem Run.config_eq (run : Run l ps m) : m.config = (last? Passage.taken? ps).getD l.config := by
  induction run with
  | refl => rfl
  | step hs _ ih => rw [ih, config_step hs, last?_cons]

end Runs

structure Admits (s : Session) (ps : List Passage) (l : WatchLoop) : Prop where
  valid : l.config.validate = .ok ()
  /-- startup would take it exactly if the configuration that was taken last has a command -/
  startable : l.config.Startable s.environment ↔
    ∀ c, last? Passage.taken? ps = some c → ∃ program, c.strategy.commandFor s.environment = .ok program
  /-- startup would end with this error -/
  startup : ∀ error, l.config.strategy.commandFor s.environment = .error error →
    ∀ {σ : Type} (o : StartupOptions) (x : Executor σ) (state : σ),
      o.load (x.tree state) x.cwd = .ok (s.replaceConfig l.config) →
        (o.bootstrap x state).result = .error (.environment error)
  /-- and every build ends with it -/
  builds : ∀ error, l.config.strategy.commandFor s.environment = .error error →
    ∀ {σ : Type} (x : Executor σ) (categories : List String) (ledger : Ledger σ),
      (s.build x categories ledger).under l.config = (.error (.environment error), ledger)

/-- However its configuration file is edited, a session keeps to valid configurations, and to
those with a command as long as it takes no other. -/
theorem reload_admits {σ : Type} {o : StartupOptions} {x : Executor σ} {state : σ} {s : Session}
    {t : Host.Tree} {ps : List Passage} {l : WatchLoop} (up : (o.bootstrap x state).result = .ok s)
    (run : Run (start t x.cwd s.root s.config) ps l)
    (loaded : ∀ p ∈ ps, p.event.IsLoadedBy (Watching.configWatch s)) : Admits s ps l := by
  have first := StartupOptions.startable_of_bootstrap up
  have loads : ∀ p ∈ ps, p.event.Loads fun c => c.validate = .ok () :=
    fun p hp => LoopEvent.valid_of_isLoadedBy (loaded p hp)
  have holding := run.holding ⟨first.valid, by simp [start]⟩ loads
  exact {
    valid := holding.config
    startable := by
      constructor
      · intro startable c hc
        rw [run.config_eq, hc] at startable
        exact startable.command
      · intro commands
        refine ⟨holding.config, ?_⟩
        rw [run.config_eq]
        cases hc : last? Passage.taken? ps with
        | none => exact first.command
        | some c => exact commands c hc
    startup := fun _ hc _ _ _ _ hl => StartupOptions.bootstrap_of_noCommand hl hc
    builds := fun _ hc _ _ _ _ => Session.build_of_error (Config.plan_of_noCommand hc) }

end WatchLoop

/-! ## A reload that startup would refuse -/

def Host.Tree.ofConfig (content : String) : Tree where
  places := [(["p"], 1), (["p", "config"], 2), (["p", "config", "bundler.toml"], 3)]
  nodes :=
    let directory : Host.Node := ⟨.directory, 0o755, 0⟩
    #[directory, directory, directory, ⟨.file content.toUTF8, 0o644, 0⟩]

theorem Host.Tree.readText_ofConfig (content : String) :
    (ofConfig content).readText [] ⟨"/p/config/bundler.toml"⟩ = .ok content := by
  have stored : (ofConfig content).read [] ⟨"/p/config/bundler.toml"⟩ = .ok content.toByteArray := rfl
  have decoded : String.fromUTF8? content.toByteArray = some content := by
    simp only [String.fromUTF8?, content.isValidUTF8]
    rfl
  simp only [readText, stored, decoded, bind, Except.bind]

def StartupOptions.tests : StartupOptions where
  root := ⟨"/p"⟩
  configPath := Config.defaultPath
  environment := ⟨"test"⟩
  withSetup := false

theorem StartupOptions.load_tests {tree : Host.Tree} {cwd : Host.Place} {content : String}
    {c : Config}
    (canonical : tree.canonical cwd ⟨"/p"⟩ = .ok ⟨"/p"⟩)
    (text : tree.readText cwd ⟨"/p/config/bundler.toml"⟩ = .ok content)
    (parsed : Config.parse content = .ok c) :
    tests.load tree cwd = .ok ((Session.ofCategories []).replaceConfig c) := by
  have found : Config.load tree cwd ⟨"/p/config/bundler.toml"⟩ = .ok c := by
    rw [Config.load, text]
    exact parsed
  simp only [load, tests, bind_eq_ok_iff, mapError_eq_ok_iff]
  exact ⟨_, canonical, c, found, rfl⟩

namespace WatchLoop

/-- Another environment takes the place of the tests in the file, and the loop takes that. -/
theorem exists_reload : ∃ s ps l error,
    (StartupOptions.tests.bootstrap .noting (.ofConfig (Config.document "js" "test"), [])).result =
      .ok s ∧
    Run (start {} [] s.root s.config) ps l ∧
    (∀ p ∈ ps, p.event.IsLoadedBy (Watching.configWatch s)) ∧
    l.config.strategy.commandFor s.environment = .error error := by
  have first : ((Config.parse (Config.document "js" "test")).toOption.any fun c =>
      c.watcher.watchConfig && (c.strategy.commandFor ⟨"test"⟩).toOption.isSome) = true := by
    decide +kernel
  have second : ((Config.parse (Config.document "js" "live")).toOption.any fun c =>
      (c.strategy.commandFor ⟨"test"⟩).toOption.isNone) = true := by decide +kernel
  obtain ⟨c, parsed, fine⟩ := exists_of_any first
  obtain ⟨c', parsed', lacks⟩ := exists_of_any second
  obtain ⟨listens, hasCommand⟩ := Bool.and_eq_true_iff.1 fine
  obtain ⟨program, command⟩ := exists_of_isSome hasCommand
  obtain ⟨error, none⟩ : ∃ error, c'.strategy.commandFor ⟨"test"⟩ = .error error := by
    cases h : c'.strategy.commandFor ⟨"test"⟩ with
    | ok program => rw [h] at lacks; cases lacks
    | error e => exact ⟨e, rfl⟩
  have concerned : (ConfigWatch.mk ⟨"/p/config/bundler.toml"⟩).concerns
      ⟨.modify, [⟨"/p/config/bundler.toml"⟩]⟩ = true := by decide +kernel
  obtain ⟨l, happens, taken⟩ : ∃ l, [.update c', .takeUpdate (some {})].foldlM step?
      (start {} [] ⟨"/p"⟩ c) = some l ∧ l.config = c' := by
    simp [start, step?, isStopped, takeUpdate?, listens]
  obtain ⟨ps, events, run⟩ := exists_run happens
  have loaded := StartupOptions.load_tests rfl (Host.Tree.readText_ofConfig _) parsed
  have up : (StartupOptions.tests.bootstrap .noting
      (.ofConfig (Config.document "js" "test"), [])).result = _ :=
    StartupOptions.bootstrap_of_noSetup loaded command rfl
  refine ⟨_, ps, l, error, up, run, fun p hp => ?_, ?_⟩
  · have event : p.event = .update c' ∨ p.event = .takeUpdate (some {}) := by
      simpa [events] using List.mem_map_of_mem (f := Passage.event) hp
    rcases event with he | he
    · rw [he]
      exact ⟨_, _, ConfigWatch.forward_of_parse concerned parsed'⟩
    · rw [he]
      trivial
  · rw [taken]
    exact none

theorem reload_admits_other : ∃ s ps l,
    (StartupOptions.tests.bootstrap .noting (.ofConfig (Config.document "js" "test"), [])).result =
      .ok s ∧
    Run (start {} [] s.root s.config) ps l ∧
    (∀ p ∈ ps, p.event.IsLoadedBy (Watching.configWatch s)) ∧ Admits s ps l := by
  obtain ⟨s, ps, l, -, up, run, loaded, -⟩ := exists_reload
  exact ⟨s, ps, l, up, run, loaded, reload_admits up run loaded⟩

/-- A session comes to a configuration that startup would refuse. -/
theorem reload_admits_unstartable : ∃ s ps l,
    (StartupOptions.tests.bootstrap .noting (.ofConfig (Config.document "js" "test"), [])).result =
      .ok s ∧
    Run (start {} [] s.root s.config) ps l ∧
    (∀ p ∈ ps, p.event.IsLoadedBy (Watching.configWatch s)) ∧
    ¬l.config.Startable s.environment := by
  obtain ⟨s, ps, l, error, up, run, loaded, none⟩ := exists_reload
  refine ⟨s, ps, l, up, run, loaded, fun startable => ?_⟩
  obtain ⟨program, command⟩ := startable.command
  cases none.symm.trans command

end WatchLoop

end AssetWatch
