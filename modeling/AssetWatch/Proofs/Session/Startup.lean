import AssetWatch.Proofs.Config.Loading
import AssetWatch.Proofs.Run.Launches
import AssetWatch.Proofs.Session.Admission
import AssetWatch.Proofs.Session.Turns

/-!
# Startup, and what it starts

Startup ends with the first of its steps that fails, and asks for a process only in the last of
them. That process is asked for once: nothing that a session does later asks for a setup command,
not even after a reload of a configuration that names another one.
-/

namespace AssetWatch

open Host (Tree Place Fault)

variable {σ : Type}

/-! ## Machines that keep a list of what they are asked for -/

def Executor.recording (x : Executor σ) : Executor (σ × List Launch) where
  machine := x.machine.logging
  tree s := x.tree s.1
  cwd := x.cwd
  processors? := x.processors?
  watchFault? := x.watchFault?
  canServe := x.canServe

def World.recording (x : World σ) : World (σ × List Launch) where
  toExecutor := x.toExecutor.recording
  now s := x.now s.1
  setTree tree s := (x.setTree tree s.1, s.2)
  takeIncidents s :=
    let (incidents, state) := x.takeIncidents s.1
    (incidents, (state, s.2))
  proceed running limit s := (x.proceed running limit s.1, s.2)
  ended? running s := (x.ended? running s.1).map fun (ended, state) => (ended, (state, s.2))

inductive Machine.Runs (m : Machine σ) (launch : Launch) (state : σ) : Child → σ → Prop
  | refused {failure : SystemFailure} {state' : σ}
      (refused : m.start launch none state = (.error failure, state')) :
      Runs m launch state (.refused failure) state'
  | ended {process position : Nat} {child : Child} {between state' : σ}
      (started : m.start launch none state = (.ok process, between))
      (ended : m.next [{ launch, process }] between = ((position, child), state')) :
      Runs m launch state child state'

section Setup

variable {m : Machine σ} {command : String} {root : Path} {state : σ} {launches : List Launch}

private theorem runSetup_eq : runSetup m command root state =
    match m.start (setupLaunch command root) none state with
    | (.error failure, state) => (CommandError.ofChild command (.refused failure), state)
    | (.ok process, state) =>
      let ((_, child), state) := m.next [{ launch := setupLaunch command root, process }] state
      (CommandError.ofChild command child, state) := rfl

private theorem exists_runs_runSetup (m : Machine σ) (command : String) (root : Path) (state : σ) :
    ∃ child,
    m.Runs (setupLaunch command root) state child (runSetup m command root state).2 ∧
    CommandError.ofChild command child = (runSetup m command root state).1 := by
  rw [runSetup_eq]
  split
  · rename_i refused
    exact ⟨_, .refused refused, rfl⟩
  · rename_i started
    exact ⟨_, .ended started rfl, rfl⟩

private theorem runSetup_logging : runSetup m.logging command root (state, launches) =
    ((runSetup m command root state).1,
      ((runSetup m command root state).2, launches ++ [setupLaunch command root])) := by
  rw [runSetup_eq, runSetup_eq]
  cases asked : m.start (setupLaunch command root) none state with
  | mk outcome between =>
    have recorded : m.logging.start (setupLaunch command root) none (state, launches) =
        (outcome, (between, launches ++ [setupLaunch command root])) := by
      simp only [Machine.logging, asked]
    rw [recorded]
    cases outcome <;> rfl

end Setup

namespace StartupOptions

variable {o : StartupOptions} {x : Executor σ} {state : σ} {s : Session} {tree : Tree} {cwd : Place}

structure Finds (o : StartupOptions) (tree : Tree) (cwd : Place) (s : Session) : Prop where
  root : tree.canonical cwd o.root = .ok s.root
  configPath : s.configPath = s.root.join o.configPath
  config : Config.Loads s.configPath (tree.readText cwd s.configPath) (.ok s.config)
  environment : s.environment = o.environment

/-- What bringing a project up comes to, by the step that decides it: the result, what was asked
for, and the state after it. -/
inductive ComesTo (o : StartupOptions) (x : Executor σ) (state : σ) :
    Except StartupError Session → List Launch → σ → Prop
  | noRoot {fault : Fault} (lost : (x.tree state).canonical x.cwd o.root = .error fault) :
      ComesTo o x state (.error (.root o.root fault)) [] state
  | noConfig {root : Path} {error : LoadError}
      (found : (x.tree state).canonical x.cwd o.root = .ok root)
      (fails : Config.Loads (root.join o.configPath)
        ((x.tree state).readText x.cwd (root.join o.configPath)) (.error error)) :
      ComesTo o x state (.error (.config error)) [] state
  | noCommand {s : Session} {error : UnknownEnvironment} (found : o.Finds (x.tree state) x.cwd s)
      (unknown : s.config.strategy.commandFor s.environment = .error error) :
      ComesTo o x state (.error (.environment error)) [] state
  | noSetup {s : Session} {program : String} (found : o.Finds (x.tree state) x.cwd s)
      (known : s.config.strategy.commandFor s.environment = .ok program)
      (none : o.withSetup = false ∨ s.config.setup = none) : ComesTo o x state (.ok s) [] state
  | setupFails {s : Session} {program command : String} {child : Child} {error : CommandError}
      {state' : σ} (found : o.Finds (x.tree state) x.cwd s)
      (known : s.config.strategy.commandFor s.environment = .ok program)
      (wanted : o.withSetup = true ∧ s.config.setup = some command)
      (runs : x.machine.Runs (setupLaunch command s.root) state child state')
      (fails : CommandError.ofChild command child = .error error) :
      ComesTo o x state (.error (.setup error)) [setupLaunch command s.root] state'
  | setUp {s : Session} {program command : String} {child : Child} {state' : σ}
      (found : o.Finds (x.tree state) x.cwd s)
      (known : s.config.strategy.commandFor s.environment = .ok program)
      (wanted : o.withSetup = true ∧ s.config.setup = some command)
      (runs : x.machine.Runs (setupLaunch command s.root) state child state')
      (succeeds : CommandError.ofChild command child = .ok ()) :
      ComesTo o x state (.ok s) [setupLaunch command s.root] state'

theorem setupOf_eq_none_iff : o.setupOf s = none ↔ o.withSetup = false ∨ s.config.setup = none := by
  unfold setupOf
  split <;> simp_all

theorem setupOf_eq_some_iff {command : String} :
    o.setupOf s = some command ↔ o.withSetup = true ∧ s.config.setup = some command := by
  unfold setupOf
  split <;> simp_all

/-- The last steps, once the project was found. -/
theorem comesTo_prepare (found : o.Finds (x.tree state) x.cwd s) :
    ∃ launches, o.ComesTo x state (o.prepare x s state).1 launches (o.prepare x s state).2 ∧
      o.prepare x.recording s (state, []) =
        ((o.prepare x s state).1, ((o.prepare x s state).2, launches)) := by
  unfold prepare
  rw [← found.environment]
  cases known : s.config.strategy.commandFor s.environment with
  | error error => exact ⟨[], .noCommand found known, rfl⟩
  | ok program =>
    dsimp only
    cases wanted : o.setupOf s with
    | none => exact ⟨[], .noSetup found known (setupOf_eq_none_iff.1 wanted), rfl⟩
    | some command =>
      dsimp only
      refine ⟨[setupLaunch command s.root], ?_, ?_⟩
      · obtain ⟨child, runs, told⟩ := exists_runs_runSetup x.machine command s.root state
        have wanted := setupOf_eq_some_iff.1 wanted
        cases result : (runSetup x.machine command s.root state).1 with
        | error error =>
          rw [result] at told
          exact .setupFails found known wanted runs told
        | ok _ =>
          rw [result] at told
          exact .setUp found known wanted runs told
      · rw [show x.recording.machine = x.machine.logging from rfl, runSetup_logging]
        rfl

/-- A project whose setup command succeeds comes up as it was found. -/
theorem bootstrap_of_setup {program command : String} {state' : σ}
    (found : o.load (x.tree state) x.cwd = .ok s)
    (known : s.config.strategy.commandFor o.environment = .ok program)
    (wanted : o.setupOf s = some command)
    (ran : runSetup x.machine command s.root state = (.ok (), state')) :
    (o.bootstrap x state).result = .ok s ∧ (o.bootstrap x state).state = state' := by
  simp only [bootstrap, found, prepare, known, wanted, ran]
  exact ⟨rfl, trivial⟩

private theorem load_eq (o : StartupOptions) (tree : Tree) (cwd : Place) : o.load tree cwd =
    match tree.canonical cwd o.root with
    | .error fault => .error (.root o.root fault)
    | .ok root =>
      match Config.load tree cwd (root.join o.configPath) with
      | .error error => .error (.config error)
      | .ok config =>
        .ok { config, configPath := root.join o.configPath, root, environment := o.environment } := by
  unfold load
  cases tree.canonical cwd o.root with
  | error fault => rfl
  | ok root =>
    let session (config : Config) : Session :=
      { config, configPath := root.join o.configPath, root, environment := o.environment }
    change ((Config.load tree cwd (root.join o.configPath)).mapError StartupError.config >>=
      fun config => .ok (session config)) =
      match Config.load tree cwd (root.join o.configPath) with
      | .error error => .error (StartupError.config error)
      | .ok config => .ok (session config)
    cases Config.load tree cwd (root.join o.configPath) <;> rfl

/-- The first step that fails decides the error, and only the last one asks for a process. -/
theorem comesTo_bootstrap (o : StartupOptions) (x : Executor σ) (state : σ) :
    let up := o.bootstrap x.recording (state, [])
    o.ComesTo x state up.result up.state.2 up.state.1 ∧
    up.result = (o.bootstrap x state).result ∧ up.state.1 = (o.bootstrap x state).state := by
  have same : o.load (x.recording.tree (state, [])) x.recording.cwd = o.load (x.tree state) x.cwd := rfl
  dsimp only
  unfold bootstrap
  rw [same, load_eq]
  cases canonical : (x.tree state).canonical x.cwd o.root with
  | error fault => exact ⟨.noRoot canonical, rfl, rfl⟩
  | ok root =>
    dsimp only
    have loads := Config.loads_ofReading (root.join o.configPath)
      ((x.tree state).readText x.cwd (root.join o.configPath))
    rw [← Config.load] at loads
    cases loaded : Config.load (x.tree state) x.cwd (root.join o.configPath) with
    | error error =>
      rw [loaded] at loads
      exact ⟨.noConfig canonical loads, rfl, rfl⟩
    | ok config =>
      rw [loaded] at loads
      dsimp only
      have found : o.Finds (x.tree state) x.cwd
          { config, configPath := root.join o.configPath, root, environment := o.environment } :=
        ⟨canonical, rfl, loads, rfl⟩
      obtain ⟨launches, comes, recorded⟩ := comesTo_prepare found
      rw [recorded]
      exact ⟨comes, rfl, rfl⟩

end StartupOptions

/-! ## Everything later -/

/-- What the machine does, and what happens to it, preserves a property of its state, unless a
process is started that is told no environment. -/
structure World.Keeps (x : World σ) (I : σ → Prop) : Prop where
  machine : x.machine.Keeps I
  edit : ∀ {tree state}, I state → I (x.setTree tree state)
  look : ∀ {state}, I state → I (x.takeIncidents state).2
  wait : ∀ {running limit state}, I state → I (x.proceed running limit state)
  ended : ∀ {running state e state'}, x.ended? running state = some (e, state') → I state → I state'

/-- What may be done with a session that was brought up: categories are built, with the
configuration replaced by others meanwhile, files are edited, time passes, and it is watched for
some turns, from any configuration on. -/
inductive Session.Lives (s : Session) (x : World σ) : Ledger σ → Ledger σ → Prop
  | refl (l : Ledger σ) : Lives s x l l
  | build {l m : Ledger σ} (names : List String) (found : Nat → Config) (before : Lives s x l m) :
      Lives s x l ((s.build x.toExecutor names m).seeing found).2
  | buildAll {l m : Ledger σ} (found : Nat → Config) (before : Lives s x l m) :
      Lives s x l ((s.buildAll x.toExecutor m).seeing found).2
  | edit {l m : Ledger σ} (tree : Tree) (before : Lives s x l m) :
      Lives s x l { m with state := x.setTree tree m.state }
  | wait {l m : Ledger σ} (running : List Running) (limit : Nat) (before : Lives s x l m) :
      Lives s x l { m with state := x.proceed running limit m.state }
  | watch {l m : Ledger σ} {c : Config} {w w' : Watching σ} {heard : FileReports}
      (before : Lives s x l m) (started : Watching.start (s.replaceConfig c) x m = .ok w)
      (turns : Watching.Turns x w heard w') : Lives s x l w'.ledger

section Life

variable {x : World σ} {s : Session} {I : σ → Prop} {l m : Ledger σ}

theorem Session.keeps_run {x : Executor σ} {b : Build} (keeps : x.machine.Keeps I)
    (h : I l.state) : I (s.run x b l).2.state :=
  Runner.keeps_execute (I := fun l : Ledger σ => I l.state) keeps.counting h

private theorem Session.keeps_build {x : Executor σ} {names : List String} {found : Nat → Config}
    (keeps : x.machine.Keeps I) (h : I l.state) :
    I ((s.build x names l).seeing found).2.state := by
  rw [Session.build, Reading.seeing_map]
  cases (s.prepare x l.state names).seeing found with
  | error error => exact h
  | ok b => exact Session.keeps_run (b := b) keeps h

namespace Watching

variable {w w' : Watching σ} {heard : FileReports}

private theorem state_settle (w : Watching σ) : w.settle.ledger.state = w.ledger.state := by
  rcases settle_cases w with same | ⟨_, -, -, same⟩ <;> rw [same]
  rw [ledger_follow]

private theorem keeps_beginBuild (keeps : x.Keeps I) (h : I w.ledger.state) :
    I (w.beginBuild x).ledger.state := by
  have begins := begins_beginBuild (x := x) w
  generalize w.beginBuild x = v at begins ⊢
  cases begins with
  | idle => exact h
  | refused =>
    rw [ledger_follow]
    exact h
  | planned _ _ begun =>
    obtain ⟨rfl, rfl⟩ := Prod.ext_iff.1 begun
    rw [state_settle]
    exact Runner.keeps_begin (I := fun l : Ledger σ => I l.state) keeps.machine.counting h

theorem Turn.keeps (keeps : x.Keeps I) (turn : Turn x w heard w') (h : I w.ledger.state) :
    I w'.ledger.state := by
  cases turn with
  | look => exact keeps.look h
  | edit => exact keeps.edit h
  | wait => exact keeps.wait h
  | observe => exact h
  | report tree e =>
    rcases reload_cases (x := x) tree e w with same | ⟨config, same⟩ <;> rw [same]
    · exact h
    · rwa [ledger_follow]
  | change =>
    change I (w.follow _).ledger.state
    rwa [ledger_follow]
  | endBurst now =>
    rcases endBurst_cases now w with same | same <;> rw [same]
    · exact h
    · change I (w.follow _).ledger.state
      rwa [ledger_follow]
  | complete completed =>
    obtain ⟨_, _, _, _, -, ended, rfl⟩ := completeProcess_cases completed
    rw [state_settle]
    exact Runner.keeps_complete (I := fun l : Ledger σ => I l.state) keeps.machine.counting
      (keeps.ended ended h)
  | take taken =>
    obtain ⟨-, u, takes, rfl⟩ := take?_cases taken
    refine keeps_beginBuild keeps ?_
    cases takes with
    | batches => rwa [ledger_follow]
    | update restart =>
      change I (w.follow _).ledger.state
      rwa [ledger_follow]

theorem Turns.keeps (keeps : x.Keeps I) (turns : Turns x w heard w') (h : I w.ledger.state) :
    I w'.ledger.state :=
  turns.preserve (P := fun w => I w.ledger.state) (Turn.keeps keeps) h

private theorem keeps_start (keeps : x.Keeps I) (started : Watching.start s x l = .ok w)
    (h : I l.state) : I w.ledger.state := by
  simp only [Watching.start, bind_eq_ok_iff] at started
  obtain ⟨_, -, _, -, same⟩ := started
  cases same
  exact keeps.look h

end Watching

theorem Session.Lives.keeps (keeps : x.Keeps I) (lives : s.Lives x l m) (h : I l.state) :
    I m.state := by
  induction lives with
  | refl => exact h
  | build names found _ ih => exact Session.keeps_build keeps.machine ih
  | buildAll found _ ih =>
    rw [Session.buildAll_seeing]
    exact Session.keeps_build keeps.machine ih
  | edit tree _ ih => exact keeps.edit ih
  | wait running limit _ ih => exact keeps.wait ih
  | watch _ started turns ih => exact turns.keeps keeps (Watching.keeps_start keeps started ih)

end Life

def AsksBeside (asked : List Launch) (s : σ × List Launch) : Prop :=
  ∃ more, s.2 = asked ++ more ∧ ∀ launch ∈ more, launch.environment.isSome = true

private theorem World.keeps_recording (x : World σ) (asked : List Launch) :
    x.recording.Keeps (AsksBeside asked) where
  machine := {
    start := by
      rintro launch limitMs state told ⟨more, same, all⟩
      refine ⟨more ++ [launch], ?_, ?_⟩
      · change state.2 ++ [launch] = _
        rw [same, List.append_assoc]
      · exact List.forall_mem_append.2 ⟨all, by simpa using told⟩
    next := id
    record := id }
  edit := id
  look := id
  wait := id
  ended := by
    intro running state e state' ended h
    obtain ⟨_, -, same⟩ := Option.map_eq_some_iff.1 ended
    cases same
    exact h

/-- A project is brought up in order. The setup command is asked for once, by the last step, and
never again, whatever is done with the session later. -/
theorem StartupOptions.bootstrap_in_order (o : StartupOptions) (x : World σ) (state : σ) :
    let up := o.bootstrap x.recording.toExecutor (state, [])
    o.ComesTo x.toExecutor state up.result up.state.2 up.state.1 ∧
    (up.result = (o.bootstrap x.toExecutor state).result ∧
      up.state.1 = (o.bootstrap x.toExecutor state).state) ∧
    (∀ (canServe : String → Bool) (serveMetrics : Bool),
      let other := { o with serveMetrics }.bootstrap { x.toExecutor with canServe } state
      other.result = (o.bootstrap x.toExecutor state).result ∧
        other.state = (o.bootstrap x.toExecutor state).state) ∧
    (∀ (c : Config) (metricsAddress : Option String),
      Config.validate { c with observability := { c.observability with metricsAddress } } =
        c.validate) ∧
    ∀ s, up.result = .ok s → ∀ l, s.Lives x.recording { state := up.state } l →
      ∃ more, l.state.2 = up.state.2 ++ more ∧
        ∀ launch ∈ more, ∀ command root, launch ≠ setupLaunch command root := by
  obtain ⟨comes, result, after⟩ := comesTo_bootstrap o x.toExecutor state
  refine ⟨comes, ⟨result, after⟩, ?_, fun _ _ => rfl, ?_⟩
  · intro canServe serveMetrics
    cases found : o.load (x.tree state) x.cwd with
    | error error =>
      have found' : { o with serveMetrics }.load (x.tree state) x.cwd = .error error := found
      simp only [bootstrap, found, found', and_self]
    | ok s =>
      have found' : { o with serveMetrics }.load (x.tree state) x.cwd = .ok s := found
      simp only [bootstrap, found, found']
      exact ⟨rfl, rfl⟩
  · intro s _ l lives
    have first : AsksBeside (o.bootstrap x.recording.toExecutor (state, [])).state.2
        (o.bootstrap x.recording.toExecutor (state, [])).state :=
      ⟨[], (List.append_nil _).symm, List.forall_mem_nil _⟩
    obtain ⟨more, same, told⟩ := lives.keeps (x.keeps_recording _) first
    refine ⟨more, same, ?_⟩
    rintro launch hl command root rfl
    cases told _ hl

def World.willing : World Tree where
  machine := {
    start := fun _ _ tree => (.ok 0, tree)
    next := fun _ tree => ((0, .ended (.exited 0) 1), tree) }
  tree := id
  cwd := []
  now _ := 0
  setTree tree _ := tree
  takeIncidents tree := ([], tree)
  proceed _ _ tree := tree
  ended? _ _ := none

def StartupOptions.setupTests : StartupOptions := { tests with withSetup := true }

def World.upWith (content : String) : Startup (Tree × List Launch) :=
  StartupOptions.setupTests.bootstrap willing.recording.toExecutor (.ofProject content "js", [])

/-- A setup command runs, another one is configured later, and everything is built. -/
theorem StartupOptions.bootstrap_in_order_setup : ∃ s l more,
    (World.upWith ("initialize=\"setup\"\n" ++ Config.document "js" "test")).result = .ok s ∧
    s.Lives World.willing.recording
      { state := (World.upWith ("initialize=\"setup\"\n" ++ Config.document "js" "test")).state } l ∧
    l.state.2 = setupLaunch "setup" ⟨"/p"⟩ :: more ∧
    ∀ launch ∈ more, ∀ command root, launch ≠ setupLaunch command root := by
  have fine : ((Config.parse ("initialize=\"setup\"\n" ++ Config.document "js" "test")).toOption.any
      fun c => c.setup == some "setup" && (c.strategy.commandFor ⟨"test"⟩).toOption.isSome) = true := by
    decide +kernel
  obtain ⟨c, parsed, fine⟩ := exists_of_any fine
  generalize "initialize=\"setup\"\n" ++ Config.document "js" "test" = content at parsed ⊢
  obtain ⟨setup, hasCommand⟩ := Bool.and_eq_true_iff.1 fine
  obtain ⟨program, command⟩ := exists_of_isSome hasCommand
  have found : setupTests.load (.ofProject content "js") [] =
      .ok ((Session.ofCategories []).replaceConfig c) :=
    load_tests rfl (Tree.readText_ofProject _ "js") parsed
  have wanted : setupTests.setupOf ((Session.ofCategories []).replaceConfig c) = some "setup" :=
    beq_iff_eq.1 setup
  have up : (World.upWith content).result = .ok ((Session.ofCategories []).replaceConfig c) ∧
      (World.upWith content).state = (.ofProject content "js", [setupLaunch "setup" ⟨"/p"⟩]) :=
    bootstrap_of_setup found command wanted rfl
  obtain ⟨result, after⟩ := up
  obtain ⟨-, -, -, -, later⟩ := bootstrap_in_order setupTests World.willing (.ofProject content "js")
  let lives := Session.Lives.buildAll (fun _ => { c with setup := some "another" })
    (.refl (s := (Session.ofCategories []).replaceConfig c) (x := World.willing.recording)
      { state := (World.upWith content).state })
  obtain ⟨more, same, never⟩ := later _ result _ lives
  refine ⟨_, _, more, result, lives, ?_, never⟩
  rw [same, ← World.upWith, after]
  rfl

end AssetWatch
