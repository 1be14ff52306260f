import AssetWatch.Proofs.Plan.Sharing
import AssetWatch.Proofs.Session.Conservation
import AssetWatch.Proofs.Targets.Discovery
import AssetWatch.Session.Watching

/-!
# Planning merged batches

What one build has to do for several categories, beside what it would have to do for each. A
merged batch is built for all its categories or for none: its build covers what each of them
needs if each can be planned alone, and the first that cannot keeps the build from starting.
-/

namespace AssetWatch

open Host (Tree Place)

namespace Config

section Plan

variable {c : Config} {tree : Tree} {cwd : Place} {root : Path} {env : Environment}
  {names : List String}

/-- An environment without a command is reported whatever is asked for. -/
theorem plan_of_noCommand {error : UnknownEnvironment}
    (h : c.strategy.commandFor env = .error error) :
    c.plan tree cwd root env names = .error (.environment error) := by
  rw [plan, h]
  rfl

theorem plan_of_command {program : String} (h : c.strategy.commandFor env = .ok program) :
    c.plan tree cwd root env names =
      match Targets.discoverAll tree cwd root c.targets names with
      | .ok entrypoints =>
        .ok (Workload.plan ⟨program, env, entrypoints, c.strategy.argsTemplate⟩ c.strategy.kind)
      | .error error => .error (.discovery error) := by
  rw [plan, h]
  cases Targets.discoverAll tree cwd root c.targets names <;> rfl

/-- A plan is for what is discovered, in its order. -/
theorem exists_discovered_of_plan {p : Plan} (h : c.plan tree cwd root env names = .ok p) :
    ∃ found, Targets.discoverAll tree cwd root c.targets names = .ok found ∧
      p.entrypoints = found.map (·.path) := by
  cases command : c.strategy.commandFor env with
  | error e => rw [plan_of_noCommand command] at h; cases h
  | ok program =>
    rw [plan_of_command command] at h
    split at h
    · rename_i found discovered
      cases h
      exact ⟨found, discovered, Workload.entrypoints_plan ..⟩
    · cases h

/-- Categories that can be planned one by one are planned together, and what each of them needs
is part of that plan. -/
theorem plan_covers {name : String} {q : Plan}
    (h : ∀ name ∈ names, ∃ q, c.plan tree cwd root env [name] = .ok q) (hname : name ∈ names)
    (hq : c.plan tree cwd root env [name] = .ok q) :
    ∃ p, c.plan tree cwd root env names = .ok p ∧ q.entrypoints ⊆ p.entrypoints := by
  cases hc : c.strategy.commandFor env with
  | error e => rw [plan_of_noCommand hc] at hq; cases hq
  | ok program =>
    have all : ∀ name ∈ names, Targets.CanDiscover tree cwd root c.targets name := by
      intro name hname
      obtain ⟨q, hq⟩ := h name hname
      obtain ⟨found, hfound, -⟩ := exists_discovered_of_plan hq
      exact ⟨found, hfound⟩
    obtain ⟨found, hfound, hpaths⟩ := exists_discovered_of_plan hq
    obtain ⟨entrypoints, hall, hsub⟩ := Targets.exists_discoverAll all
    refine ⟨_, by rw [plan_of_command hc, hall], ?_⟩
    rw [hpaths, Workload.entrypoints_plan]
    exact List.map_subset _ (hsub name hname found hfound)

/-- The first category that cannot be planned alone decides the error of a plan. -/
theorem exists_plan_error (h : ∃ name ∈ names, ∀ q, c.plan tree cwd root env [name] ≠ .ok q) :
    ∃ before name after error, names = before ++ name :: after ∧
      (∀ earlier ∈ before, ∃ q, c.plan tree cwd root env [earlier] = .ok q) ∧
      c.plan tree cwd root env [name] = .error error ∧
      c.plan tree cwd root env names = .error error := by
  cases hc : c.strategy.commandFor env with
  | error e =>
    obtain ⟨name, hname, -⟩ := h
    obtain ⟨first, rest, rfl⟩ := List.exists_cons_of_ne_nil (List.ne_nil_of_mem hname)
    exact ⟨[], first, rest, _, rfl, by simp, plan_of_noCommand hc, plan_of_noCommand hc⟩
  | ok program =>
    have plans {name : String} (hd : Targets.CanDiscover tree cwd root c.targets name) :
        ∃ q, c.plan tree cwd root env [name] = .ok q := by
      obtain ⟨found, hfound⟩ := hd
      exact ⟨_, by rw [plan_of_command hc, hfound]⟩
    have hnot : ∃ name ∈ names, ¬Targets.CanDiscover tree cwd root c.targets name := by
      obtain ⟨name, hname, hne⟩ := h
      refine ⟨name, hname, fun hd => ?_⟩
      obtain ⟨q, hq⟩ := plans hd
      exact hne q hq
    obtain ⟨before, name, after, error, hnames, hbefore, hname, hall⟩ :=
      Targets.exists_first_error hnot
    refine ⟨before, name, after, .discovery error, hnames, ?_, ?_, ?_⟩
    · exact fun earlier hearlier => plans (hbefore earlier hearlier)
    · rw [plan_of_command hc, hname]
    · rw [plan_of_command hc, hall]

end Plan

end Config

private theorem Reading.under_read {α : Type} (next : Config → Reading α) (c : Config) :
    (Reading.read next).under c = (next c).under c := rfl

theorem Reading.seeing_map {α β : Type} (f : α → β) (r : Reading α) (found : Nat → Config) :
    (r.map f).seeing found = f (r.seeing found) := by
  induction r generalizing found with
  | done => rfl
  | read next ih => exact ih (found 0) fun n => found (n + 1)

theorem Reading.under_map {α β : Type} (f : α → β) (r : Reading α) (c : Config) :
    (r.map f).under c = f (r.under c) := seeing_map f r fun _ => c

namespace Session

variable {σ : Type} {s : Session} {x : Executor σ} {state : σ} {c : Config} {names : List String}

theorem prepare_eq : s.prepare x state names = .read fun c =>
    match (s.plan x state names).under c with
    | .error e => .done (.error e)
    | .ok plan => .read fun c => .done (.ok { plan, limits := c.execution }) := rfl

theorem prepare_under : (s.prepare x state names).under c =
    ((s.plan x state names).under c).map fun p => ⟨p, c.execution⟩ := by
  rw [prepare_eq, Reading.under_read]
  cases (s.plan x state names).under c <;> rfl

/-- What is prepared is run, whichever configurations were found meanwhile. -/
theorem build_of_prepared {found : Nat → Config} {b : Build} {ledger : Ledger σ}
    (prepared : (s.prepare x ledger.state names).seeing found = .ok b) :
    (s.build x names ledger).seeing found = (.ok (s.run x b ledger).1, (s.run x b ledger).2) := by
  rw [build, Reading.seeing_map, prepared]

/-- A build that ends with an error leaves everything as it is. -/
theorem build_of_refused {found : Nat → Config} {error : BuildError} {ledger : Ledger σ}
    (refused : ((s.build x names ledger).seeing found).1 = .error error) :
    ((s.build x names ledger).seeing found).2 = ledger := by
  rw [build, Reading.seeing_map] at refused ⊢
  cases prepared : (s.prepare x ledger.state names).seeing found with
  | error e => rfl
  | ok b =>
    rw [prepared] at refused
    cases refused

/-- A build of every category is one of those that are configured when it begins. -/
theorem buildAll_seeing {found : Nat → Config} {ledger : Ledger σ} :
    (s.buildAll x ledger).seeing found =
      (s.build x (found 0).categories ledger).seeing fun n => found (n + 1) := rfl

/-- A build that cannot be planned leaves everything as it is. -/
theorem build_of_error {ledger : Ledger σ} {error : BuildError}
    (h : (s.plan x ledger.state names).under c = .error error) :
    (s.build x names ledger).under c = (.error error, ledger) := by
  rw [build, Reading.under_map, prepare_under, h]
  rfl

/-- A build fails only because it cannot be planned. -/
theorem plan_of_build_error {ledger : Ledger σ} {error : BuildError}
    (h : ((s.build x names ledger).under c).1 = .error error) :
    (s.plan x ledger.state names).under c = .error error := by
  rw [build, Reading.under_map, prepare_under] at h
  cases hp : (s.plan x ledger.state names).under c with
  | error e => simpa [hp, Except.map] using h
  | ok p => simp [hp, Except.map] at h

def CanPlan (s : Session) (x : Executor σ) (state : σ) (c : Config) (name : String) : Prop :=
  ∃ q, (s.plan x state [name]).under c = .ok q

/-- The build of some categories covers what each of them needs that can be planned alone. -/
def CoversEach (s : Session) (x : Executor σ) (state : σ) (c : Config) (names : List String) :
    Prop :=
  ∀ name ∈ names, ∀ q, (s.plan x state [name]).under c = .ok q →
    ∃ b, (s.prepare x state names).under c = .ok b ∧ q.entrypoints ⊆ b.plan.entrypoints

/-- The build of some categories covers what each of them needs; or it is refused for the first
of them that cannot be planned alone, and no process is started. -/
structure AllOrNothing (s : Session) (x : Executor σ) (ledger : Ledger σ) (c : Config)
    (names : List String) : Prop where
  covers : (∀ name ∈ names, s.CanPlan x ledger.state c name) → s.CoversEach x ledger.state c names
  refuses : (∃ name ∈ names, ¬s.CanPlan x ledger.state c name) →
    ∃ before name after error, names = before ++ name :: after ∧
      (∀ earlier ∈ before, s.CanPlan x ledger.state c earlier) ∧
      (s.plan x ledger.state [name]).under c = .error error ∧
      (s.build x names ledger).under c = (.error error, ledger)

private theorem allOrNothing (s : Session) (x : Executor σ) (ledger : Ledger σ) (c : Config)
    (names : List String) : s.AllOrNothing x ledger c names where
  covers hall name hname q hq := by
    obtain ⟨p, hp, hsub⟩ := Config.plan_covers hall hname hq
    have hplan : (s.plan x ledger.state names).under c = .ok p := hp
    exact ⟨⟨p, c.execution⟩, by rw [prepare_under, hplan]; rfl, hsub⟩
  refuses hnot := by
    have hne : ∃ name ∈ names, ∀ q,
        c.plan (x.tree ledger.state) x.cwd s.root s.environment [name] ≠ .ok q := by
      obtain ⟨name, hname, h⟩ := hnot
      exact ⟨name, hname, fun q hq => h ⟨q, hq⟩⟩
    obtain ⟨before, name, after, error, hnames, hbefore, hname, hall⟩ :=
      Config.exists_plan_error hne
    exact ⟨before, name, after, error, hnames, hbefore, hname, build_of_error hall⟩

end Session

/-- Finds the files of a tree, notes which programs it is asked for, and starts none of them. -/
def Executor.noting : Executor (Tree × List String) where
  machine :=
    let failure : SystemFailure := { reason := Host.Fault.notFound.message }
    { start := fun launch _ (t, asked) => (.error failure, (t, asked ++ [launch.program.text]))
      next := fun _ state => ((0, .lost failure), state) }
  tree := (·.1)
  cwd := []

/-- Two processors, on which no program is found and nothing ever happens. -/
def World.still : World (Tree × List String) where
  toExecutor := { Executor.noting with processors? := some 2 }
  now _ := 0
  setTree tree state := (tree, state.2)
  takeIncidents state := ([], state)
  proceed _ _ state := state
  ended? _ _ := none

def Host.Tree.ofProject (content folder : String) : Tree where
  places := [(["p"], 1), (["p", "config"], 2), (["p", "config", "bundler.toml"], 3),
    (["p", folder], 4), (["p", folder, "app"], 5), (["p", folder, "site"], 6)]
  nodes :=
    let directory : Host.Node := ⟨.directory, 0o755, 0⟩
    let empty : Host.Node := ⟨.file ByteArray.empty, 0o644, 0⟩
    #[directory, directory, directory, ⟨.file content.toUTF8, 0o644, 0⟩, directory, empty, empty]

theorem Host.Tree.readText_ofProject (content folder : String) :
    (ofProject content folder).readText [] ⟨"/p/config/bundler.toml"⟩ = .ok content := by
  have stored : (ofProject content folder).read [] ⟨"/p/config/bundler.toml"⟩ =
    .ok content.toByteArray := rfl
  have decoded : String.fromUTF8? content.toByteArray = some content := by
    simp only [String.fromUTF8?, content.isValidUTF8]
    rfl
  simp only [readText, stored, decoded, bind, Except.bind]

def Host.Tree.ofFolders (folders : List String) : Tree where
  places := (["p"], 1) :: folders.zipIdx.flatMap fun (folder, i) =>
    [(["p", folder], 2 * i + 2), (["p", folder, "app"], 2 * i + 3)]
  nodes :=
    let directory : Host.Node := ⟨.directory, 0o755, 0⟩
    (directory :: directory :: folders.flatMap fun _ =>
      [directory, ⟨.file ByteArray.empty, 0o644, 0⟩]).toArray

def Session.ofCategories (categories : List String) : Session where
  config := .ofCategories categories
  configPath := ⟨"/p/config/bundler.toml"⟩
  root := ⟨"/p"⟩
  environment := ⟨"test"⟩

namespace WatchLoop

variable {σ : Type}

/-- Queued batches are merged into one build, which is for all their categories or for none. -/
theorem merged_build_all_or_nothing {l l' : WatchLoop} (h : l.step? .takeBatches = some l')
    (s : Session) (x : Executor σ) (ledger : Ledger σ) :
    ∃ batch, l'.phase = .building (.changes batch) batch.categories.toList ∧
      (∀ name, name ∈ batch.categories.toList ↔
        ∃ b ∈ l.source.batches, name ∈ b.categories.toList) ∧
      s.AllOrNothing x ledger l'.config batch.categories.toList := by
  have hmerges := merges_step h
  obtain ⟨batch, hphase, -, hmem⟩ := hmerges.build
  rw [hmerges.all] at hmem
  exact ⟨batch, hphase, hmem, s.allOrNothing x ledger l'.config _⟩

def twoFolders : List LoopEvent :=
  [.change ⟨"/p/js/app"⟩, .burstEnds, .change ⟨"/p/css/app"⟩, .burstEnds]

theorem merged_build_all_or_nothing_two : ∃ l l' batch,
    twoFolders.foldlM step? (start (.ofFolders ["css", "js"]) [] ⟨"/p"⟩
      (.ofCategories ["css", "js"])) = some l ∧
    l.step? .takeBatches = some l' ∧
    l'.phase = .building (.changes batch) batch.categories.toList ∧
    (∀ name, name ∈ batch.categories.toList ↔
      ∃ b ∈ l.source.batches, name ∈ b.categories.toList) ∧
    (Session.ofCategories ["css", "js"]).AllOrNothing .noting ⟨(.ofFolders ["js"], []), {}⟩ l'.config
      batch.categories.toList := by
  have happens : ∃ l, twoFolders.foldlM step? (start (.ofFolders ["css", "js"]) [] ⟨"/p"⟩
      (.ofCategories ["css", "js"])) = some l ∧ ∃ l', l.step? .takeBatches = some l' :=
    ⟨_, rfl, _, rfl⟩
  obtain ⟨l, hl, l', hl'⟩ := happens
  obtain ⟨batch, h⟩ := merged_build_all_or_nothing hl' (Session.ofCategories ["css", "js"])
    .noting ⟨(.ofFolders ["js"], []), {}⟩
  exact ⟨l, l', batch, hl, hl', h⟩

/-- The scripts could be built, but not with the styles, whose folder is gone. -/
theorem merged_build_loses_scripts : ∃ l l' batch,
    twoFolders.foldlM step? (start (.ofFolders ["css", "js"]) [] ⟨"/p"⟩
      (.ofCategories ["css", "js"])) = some l ∧
    l.step? .takeBatches = some l' ∧
    l'.phase = .building (.changes batch) batch.categories.toList ∧
    ¬(Session.ofCategories ["css", "js"]).CoversEach .noting (.ofFolders ["js"], []) l'.config
      batch.categories.toList := by
  refine ⟨_, _, _, rfl, rfl, rfl, fun covers => ?_⟩
  have alone : (((Session.ofCategories ["css", "js"]).plan .noting (.ofFolders ["js"], [])
      ["js"]).under (.ofCategories ["css", "js"])).toOption.isSome = true := by decide +kernel
  have refused : ((Session.ofCategories ["css", "js"]).prepare .noting (.ofFolders ["js"], [])
      ["css", "js"]).under (.ofCategories ["css", "js"]) =
        .error (.discovery (.missingFolder "css" ⟨"/p/css"⟩)) := rfl
  cases hq : ((Session.ofCategories ["css", "js"]).plan .noting (.ofFolders ["js"], [])
      ["js"]).under (.ofCategories ["css", "js"]) with
  | error e => rw [hq] at alone; cases alone
  | ok q =>
    obtain ⟨b, hb, -⟩ := covers "js" (by decide) q hq
    cases refused.symm.trans hb

end WatchLoop

end AssetWatch
