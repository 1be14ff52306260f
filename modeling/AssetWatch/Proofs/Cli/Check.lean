import AssetWatch.Cli.Run
import AssetWatch.Proofs.Config.Validity
import AssetWatch.Proofs.Session.Planning
import AssetWatch.Proofs.Targets.Entrypoints
import Mathlib.Algebra.GroupWithZero.Nat
import Mathlib.Data.List.Sort

/-!
# Checking and planning

`check` looks at each entrypoint folder and goes on after a bad one; a plan reads the folders of
all categories that are named anywhere, and ends with the first error. Since validation has every
category named on both sides, the two succeed on the same projects, and the entrypoints that
`check` counts are those that the plan is for.
-/

namespace AssetWatch

open Host (Tree Place)

namespace Targets

variable {tree : Tree} {cwd : Place} {root folder : Path} {targets : Targets} {name : String}
  {names : List String}

def CanRead (tree : Tree) (cwd : Place) (root : Path) (entry : String × Path) : Prop :=
  ∃ found, discover tree cwd root entry.1 entry.2 = .ok found

def count (tree : Tree) (cwd : Place) (root : Path) (entry : String × Path) : Nat :=
  match discover tree cwd root entry.1 entry.2 with
  | .ok found => found.length
  | .error _ => 0

private theorem count_of_ok {entry : String × Path} {found : List Entrypoint}
    (h : discover tree cwd root entry.1 entry.2 = .ok found) :
    count tree cwd root entry = found.length := by
  unfold count
  rw [h]

section Entries

variable {entries : List (String × Path)}
  (configured : ∀ e ∈ entries, targets.entrypointFolders.get? e.1 = some e.2)

include configured

/-- Folders that can be read one by one are read together, and only those. -/
theorem exists_discoverAll_iff :
    (∃ all, discoverAll tree cwd root targets (entries.map (·.1)) = .ok all) ↔
      ∀ e ∈ entries, CanRead tree cwd root e := by
  have alone : (∀ name ∈ entries.map (·.1), CanDiscover tree cwd root targets name) ↔
      ∀ e ∈ entries, CanRead tree cwd root e := by
    rw [List.forall_mem_map]
    refine forall₂_congr fun e he => ?_
    rw [CanDiscover, discoverAll_singleton (configured e he), CanRead]
  rw [← alone]
  constructor
  · rintro ⟨all, h⟩
    by_contra some
    obtain ⟨_, _, _, _, -, -, -, fails⟩ :=
      exists_first_error (by simpa only [not_forall, exists_prop] using some)
    cases fails.symm.trans h
  · intro each
    obtain ⟨all, h, -⟩ := exists_discoverAll each
    exact ⟨all, h⟩

/-- What is discovered together is as much as what is discovered one by one. -/
theorem length_discoverAll {all : List Entrypoint}
    (h : discoverAll tree cwd root targets (entries.map (·.1)) = .ok all) :
    all.length = (entries.map (count tree cwd root)).sum := by
  induction entries generalizing all with
  | nil =>
    rw [List.map_nil, discoverAll, Except.ok.injEq] at h
    rw [← h]
    rfl
  | cons e entries ih =>
    obtain ⟨first, others⟩ := List.forall_mem_cons.1 configured
    rw [List.map_cons] at h
    cases hd : discover tree cwd root e.1 e.2 with
    | error error =>
      rw [discoverAll_cons_of_error ((discoverAll_singleton first).trans hd)] at h
      cases h
    | ok here =>
      rw [discoverAll_cons_of_ok ((discoverAll_singleton first).trans hd)] at h
      cases hr : discoverAll tree cwd root targets (entries.map (·.1)) with
      | error error => rw [hr] at h; cases h
      | ok rest =>
        rw [hr] at h
        cases h
        rw [List.length_append, ih others hr, List.map_cons, List.sum_cons, count_of_ok hd]

end Entries

end Targets

namespace Config

variable {c : Config}

private theorem get?_of_mem_folders : ∀ e ∈ c.targets.entrypointFolders.toList,
    c.targets.entrypointFolders.get? e.1 = some e.2 :=
  fun _ he => NameMap.get?_eq_some_iff.2 he

/-- The categories of a valid configuration, in the order of their entrypoint folders. -/
theorem categories_eq_of_valid (valid : c.validate = .ok ()) :
    c.categories = c.targets.entrypointFolders.toList.map (·.1) := by
  have increasing : (c.targets.entrypointFolders.toList.map (·.1)).Pairwise (· < ·) :=
    List.pairwise_map.2 c.targets.entrypointFolders.increasing
  have same : ∀ name, name ∈ c.categories ↔ name ∈ c.targets.entrypointFolders.keys := by
    intro name
    rw [mem_categories, ← mem_keys_iff_of_valid valid, or_self]
  exact (Sorted.increasing _).eq_of_mem_iff increasing same

end Config

namespace Cli

variable {tree : Tree} {cwd : Place} {root config : Path} {env : Environment} {c : Config}

theorem exitCode_eq_zero_iff {o : Output} : o.exitCode = 0 ↔ o.failure = none := by
  rw [Output.exitCode]
  cases o.failure <;> simp

/-- All that is looked at is fine: the environment has a command, and the entrypoint folders can
be read. -/
structure Ready (tree : Tree) (cwd : Place) (root : Path) (env : Environment) (c : Config) :
    Prop where
  command : ∃ program, c.strategy.commandFor env = .ok program
  folders : ∀ e ∈ c.targets.entrypointFolders.toList, Targets.CanRead tree cwd root e

def countLine (entry : String × Path) (count : Nat) : String :=
  s!"{entry.1}: {count} entrypoint(s) in {entry.2.text}\n"

def summary (path : Path) (c : Config) (count : String × Path → Nat) : String :=
  let environments := String.intercalate ", " c.strategy.commands.keys
  s!"{path.text} is valid\nstrategy: {c.strategy.kind.name}\n" ++
    s!"environments: {environments}\n" ++
      String.join (c.targets.entrypointFolders.toList.map fun e => countLine e (count e))

/-- The line of a folder that can be read. -/
theorem checkCategory_of_canRead {e : String × Path} (h : Targets.CanRead tree cwd root e) :
    checkCategory tree cwd root e.1 e.2 = .ok (countLine e (Targets.count tree cwd root e)) := by
  obtain ⟨found, hd⟩ := h
  rw [Targets.count_of_ok hd]
  unfold checkCategory
  rw [hd]
  rfl

private theorem canRead_of_checkCategory {e : String × Path} {line : String}
    (h : checkCategory tree cwd root e.1 e.2 = .ok line) : Targets.CanRead tree cwd root e := by
  unfold checkCategory at h
  split at h
  · rename_i found hd
    exact ⟨found, hd⟩
  · cases h

private theorem check_of_ready (loaded : Config.load tree cwd (root.join config) = .ok c)
    (ready : Ready tree cwd root env c) :
    check tree cwd root config env =
      { out := summary (root.join config) c (Targets.count tree cwd root) } := by
  obtain ⟨program, command⟩ := ready.command
  have lines : (c.targets.entrypointFolders.toList.map fun e =>
      checkCategory tree cwd root e.1 e.2) =
        c.targets.entrypointFolders.toList.map fun e =>
          .ok (countLine e (Targets.count tree cwd root e)) :=
    List.map_congr_left fun e he => checkCategory_of_canRead (ready.folders e he)
  have good : c.targets.entrypointFolders.toList.filterMap (fun e =>
      some (countLine e (Targets.count tree cwd root e))) =
        c.targets.entrypointFolders.toList.map fun e =>
          countLine e (Targets.count tree cwd root e) :=
    congrFun List.filterMap_eq_map' _
  have bad : c.targets.entrypointFolders.toList.filterMap (fun _ => (none : Option String)) = [] :=
    List.filterMap_none ..
  unfold check
  dsimp only
  rw [loaded]
  dsimp only
  rw [lines, command, List.filterMap_map, List.filterMap_map]
  simp only [Function.comp_def, good, bad]
  rfl

private theorem ready_of_check (loaded : Config.load tree cwd (root.join config) = .ok c)
    (h : (check tree cwd root config env).failure = none) : Ready tree cwd root env c := by
  unfold check at h
  dsimp only at h
  rw [loaded] at h
  dsimp only at h
  have fine := by_contra fun bad => nomatch (if_neg bad).symm.trans h
  cases command : c.strategy.commandFor env with
  | error e =>
    rw [command] at fine
    simp at fine
  | ok program =>
    rw [command] at fine
    refine ⟨⟨program, command⟩, fun e he => ?_⟩
    have line := List.filterMap_eq_nil_iff.1 (List.isEmpty_iff.1 fine) _ (List.mem_map_of_mem he)
    cases reads : checkCategory tree cwd root e.1 e.2 with
    | ok text => exact canRead_of_checkCategory reads
    | error text =>
      rw [reads] at line
      cases line

private theorem exists_load_of_check (h : (check tree cwd root config env).failure = none) :
    ∃ c, Config.load tree cwd (root.join config) = .ok c := by
  cases loaded : Config.load tree cwd (root.join config) with
  | ok c => exact ⟨c, rfl⟩
  | error e =>
    unfold check at h
    dsimp only at h
    rw [loaded] at h
    cases h

/-! ## Planning everything -/

private theorem plan_of_planOf {names : List String} {p : Plan}
    (h : planOf tree cwd root config env names = .ok p) :
    plan tree cwd root config env names = { out := p.encode.indented ++ "\n" } := by
  unfold plan
  rw [h]

theorem plan_failure_eq_none_iff {names : List String} :
    (plan tree cwd root config env names).failure = none ↔
      ∃ p, planOf tree cwd root config env names = .ok p := by
  cases h : planOf tree cwd root config env names with
  | ok p =>
    rw [plan_of_planOf h]
    exact ⟨fun _ => ⟨p, rfl⟩, fun _ => rfl⟩
  | error failure =>
    unfold plan
    rw [h]
    exact ⟨nofun, nofun⟩

/-- Naming no category asks for all of them. -/
theorem planOf_nil_eq_ok_iff {p : Plan} : planOf tree cwd root config env [] = .ok p ↔
    ∃ c, Config.load tree cwd (root.join config) = .ok c ∧
      c.plan tree cwd root env c.categories = .ok p := by
  simp only [planOf, bind_eq_ok_iff, mapError_eq_ok_iff, List.isEmpty_nil, if_true]

/-- A valid configuration is planned for all its categories exactly if all is fine. -/
theorem exists_plan_iff (valid : c.validate = .ok ()) :
    (∃ p, c.plan tree cwd root env c.categories = .ok p) ↔ Ready tree cwd root env c := by
  have read : (∃ all, Targets.discoverAll tree cwd root c.targets c.categories = .ok all) ↔
      ∀ e ∈ c.targets.entrypointFolders.toList, Targets.CanRead tree cwd root e := by
    rw [Config.categories_eq_of_valid valid]
    exact Targets.exists_discoverAll_iff Config.get?_of_mem_folders
  cases command : c.strategy.commandFor env with
  | error e =>
    rw [Config.plan_of_noCommand command]
    refine ⟨nofun, fun ready => ?_⟩
    obtain ⟨program, found⟩ := ready.command
    cases command.symm.trans found
  | ok program =>
    rw [Config.plan_of_command command]
    constructor
    · rintro ⟨p, h⟩
      split at h
      · rename_i all found
        exact ⟨⟨program, command⟩, read.1 ⟨all, found⟩⟩
      · cases h
    · intro ready
      obtain ⟨all, found⟩ := read.2 ready.folders
      rw [found]
      exact ⟨_, rfl⟩

/-- A plan for all categories is for as many entrypoints as there are in their folders. -/
theorem length_entrypoints_plan {p : Plan} (valid : c.validate = .ok ())
    (h : c.plan tree cwd root env c.categories = .ok p) :
    p.entrypoints.length =
      (c.targets.entrypointFolders.toList.map (Targets.count tree cwd root)).sum := by
  obtain ⟨all, found, entrypoints⟩ := Config.exists_discovered_of_plan h
  rw [Config.categories_eq_of_valid valid] at found
  rw [entrypoints, List.length_map]
  exact Targets.length_discoverAll Config.get?_of_mem_folders found

theorem exitCode_check_eq_zero_iff : (check tree cwd root config env).exitCode = 0 ↔
    ∃ c, Config.load tree cwd (root.join config) = .ok c ∧ Ready tree cwd root env c := by
  rw [exitCode_eq_zero_iff]
  constructor
  · intro h
    obtain ⟨c, loaded⟩ := exists_load_of_check h
    exact ⟨c, loaded, ready_of_check loaded h⟩
  · rintro ⟨c, loaded, ready⟩
    rw [check_of_ready loaded ready]

/-- `check` and `plan` succeed on the same projects, and then the numbers that `check` writes add
up to the number of entrypoints of the plan. -/
theorem check_agrees_with_plan (tree : Tree) (cwd : Place) (root config : Path)
    (env : Environment) :
    ((check tree cwd root config env).exitCode = 0 ↔
      (plan tree cwd root config env []).exitCode = 0) ∧
    ((check tree cwd root config env).exitCode = 0 → ∃ c p,
      Config.load tree cwd (root.join config) = .ok c ∧
      planOf tree cwd root config env [] = .ok p ∧
      plan tree cwd root config env [] = { out := p.encode.indented ++ "\n" } ∧
      check tree cwd root config env =
        { out := summary (root.join config) c (Targets.count tree cwd root) } ∧
      (c.targets.entrypointFolders.toList.map (Targets.count tree cwd root)).sum =
        p.entrypoints.length) := by
  have planned {c : Config} (loaded : Config.load tree cwd (root.join config) = .ok c) :
      Ready tree cwd root env c ↔ ∃ p, c.plan tree cwd root env c.categories = .ok p :=
    (exists_plan_iff (Config.validate_of_ofReading loaded)).symm
  constructor
  · rw [exitCode_check_eq_zero_iff, exitCode_eq_zero_iff, plan_failure_eq_none_iff]
    simp only [planOf_nil_eq_ok_iff]
    rw [exists_comm]
    refine exists_congr fun c => ?_
    rw [exists_and_left]
    exact and_congr_right planned
  · intro h
    obtain ⟨c, loaded, ready⟩ := exitCode_check_eq_zero_iff.1 h
    obtain ⟨p, hp⟩ := (planned loaded).1 ready
    have asked := planOf_nil_eq_ok_iff.2 ⟨c, loaded, hp⟩
    refine ⟨c, p, loaded, asked, plan_of_planOf asked, check_of_ready loaded ready, ?_⟩
    exact (length_entrypoints_plan (Config.validate_of_ofReading loaded) hp).symm

/-- Two scripts are counted and planned. -/
theorem check_agrees_with_plan_scripts :
    let tree := Tree.ofProject (Config.document "js" "test") "js"
    let path := Path.join ⟨"/p"⟩ Config.defaultPath
    (check tree [] ⟨"/p"⟩ Config.defaultPath ⟨"test"⟩).exitCode = 0 ∧ ∃ c p,
      Config.load tree [] path = .ok c ∧
      planOf tree [] ⟨"/p"⟩ Config.defaultPath ⟨"test"⟩ [] = .ok p ∧
      plan tree [] ⟨"/p"⟩ Config.defaultPath ⟨"test"⟩ [] = { out := p.encode.indented ++ "\n" } ∧
      check tree [] ⟨"/p"⟩ Config.defaultPath ⟨"test"⟩ =
        { out := summary path c (Targets.count tree [] ⟨"/p"⟩) } ∧
      (c.targets.entrypointFolders.toList.map (Targets.count tree [] ⟨"/p"⟩)).sum =
        p.entrypoints.length ∧
      p.entrypoints.length = 2 := by
  intro tree path
  have fine : ((Config.parse (Config.document "js" "test")).toOption.any fun c =>
      c.targets.entrypointFolders.toList == [("js", ⟨"js"⟩)] &&
        (c.plan tree [] ⟨"/p"⟩ ⟨"test"⟩ c.categories).toOption.isSome) = true := by
    decide +kernel
  obtain ⟨c, parsed, fine⟩ := exists_of_any fine
  obtain ⟨folders, succeeds⟩ := Bool.and_eq_true_iff.1 fine
  have loaded : Config.load tree [] path = .ok c := by
    change Config.load tree [] ⟨"/p/config/bundler.toml"⟩ = .ok c
    rw [Config.load, Tree.readText_ofProject]
    exact parsed
  obtain ⟨p, planned⟩ := exists_of_isSome succeeds
  have ready := (exists_plan_iff (Config.validate_of_ofReading loaded)).1 ⟨p, planned⟩
  have succeeds := exitCode_check_eq_zero_iff.2 ⟨c, loaded, ready⟩
  obtain ⟨c', p', loaded', asked, written, checked, counted⟩ :=
    (check_agrees_with_plan tree [] ⟨"/p"⟩ Config.defaultPath ⟨"test"⟩).2 succeeds
  obtain rfl : c = c' := Except.ok.inj (loaded.symm.trans loaded')
  refine ⟨succeeds, c, p', loaded, asked, written, checked, counted, ?_⟩
  have found : Targets.discover tree [] ⟨"/p"⟩ "js" ⟨"js"⟩ = .ok (Targets.entrypoints
      (fun name => tree.isFile [] (Path.join (Path.join ⟨"/p"⟩ ⟨"js"⟩) name)) "js" ⟨"js"⟩
      ["app", "site"]) :=
    Targets.discover_eq_ok_iff.2 ⟨by decide +kernel, _, rfl, rfl⟩
  have two : (["app", "site"].filter fun name => Entrypoint.isName name &&
      tree.isFile [] (Path.join (Path.join ⟨"/p"⟩ ⟨"js"⟩) ⟨name⟩)).length = 2 := by decide +kernel
  have counts : Targets.count tree [] ⟨"/p"⟩ ("js", ⟨"js"⟩) = 2 := by
    refine (@Targets.count_of_ok tree [] ⟨"/p"⟩ ("js", ⟨"js"⟩) _ found).trans ?_
    rwa [Targets.entrypoints, List.length_mergeSort, List.length_map]
  rw [← counted, beq_iff_eq.1 folders, List.map_singleton, List.sum_singleton, counts]

end Cli

end AssetWatch
