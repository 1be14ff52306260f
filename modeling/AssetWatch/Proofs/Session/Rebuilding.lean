import AssetWatch.Proofs.Path.Joins
import AssetWatch.Proofs.Targets.Entrypoints
import AssetWatch.Proofs.Targets.Watched

/-!
# A changed entrypoint is built again

Discovery finds entrypoints by the folder as it is configured, and changes are matched with folders
seen from the root, with and without links. The two meet: whichever way a change of an entrypoint is
reported, it affects the entrypoint's category, and the build of the affected categories has a
process for the entrypoint.
-/

namespace AssetWatch

open Host (Tree Place IsName)

namespace Session

variable {σ : Type}

/-- The categories affected by a change, under the configuration in force and for the files that a
build finds. -/
def affected (s : Session) (x : Executor σ) (state : σ) (path : Path) : List String :=
  ((Matcher.ofTargets (x.tree state) x.cwd s.root s.config.targets).categoriesFor path).toList

variable {s : Session} {x : Executor σ} {state : σ} {names : List String} {folder path : Path}
  {category : String}

/-- What is in an entrypoint folder, seen as the folder is configured, affects its category. -/
theorem mem_affected_of_spelled (configured : s.config.targets.entrypointFolders.get? category =
    some folder) (relative : path.isAbsolute = false) :
    category ∈ s.affected x state (s.root.join (folder.join path)) := by
  have under : (s.root.join (folder.join path)).startsWith (s.root.join folder) = true := by
    rw [Path.join_assoc]
    exact Path.startsWith_join _ relative
  exact Matcher.mem_categoriesFor_ofTargets.2
    ⟨folder, .inr (NameMap.get?_eq_some_iff.1 configured), .inl under⟩

/-- What is in an entrypoint folder, seen without links, affects its category. -/
theorem mem_affected_of_canonical {place : Path} (configured :
    s.config.targets.entrypointFolders.get? category = some folder)
    (canonical : (x.tree state).canonical x.cwd (s.root.join folder) = .ok place)
    (relative : path.isAbsolute = false) : category ∈ s.affected x state (place.join path) :=
  Matcher.mem_categoriesFor_ofTargets.2 ⟨folder, .inr (NameMap.get?_eq_some_iff.1 configured),
    .inr ⟨place, canonical, Path.startsWith_join _ relative⟩⟩

/-- Categories whose folders can be read are planned together, and each with all its entrypoints. -/
theorem exists_plan_of_isReadable {program : String}
    (command : s.config.strategy.commandFor s.environment = .ok program)
    (readable : ∀ name ∈ names, ∃ folder,
      s.config.targets.entrypointFolders.get? name = some folder ∧
        Targets.IsReadable (x.tree state) x.cwd (s.root.join folder))
    (among : category ∈ names)
    (configured : s.config.targets.entrypointFolders.get? category = some folder)
    {found : List Entrypoint}
    (discovered : Targets.discover (x.tree state) x.cwd s.root category folder = .ok found) :
    ∃ plan, (s.plan x state names).under s.config = .ok plan ∧
      found.map (·.path) ⊆ plan.entrypoints := by
  have each : ∀ name ∈ names,
      Targets.CanDiscover (x.tree state) x.cwd s.root s.config.targets name := by
    intro name hname
    obtain ⟨folder, configured, readable⟩ := readable name hname
    rw [Targets.CanDiscover, Targets.discoverAll_singleton configured]
    exact Targets.exists_discover_iff.2 readable
  obtain ⟨all, together, parts⟩ := Targets.exists_discoverAll each
  have part := parts category among found
    ((Targets.discoverAll_singleton configured).trans discovered)
  refine ⟨_, (Config.plan_of_command command).trans (by rw [together]), ?_⟩
  rw [Workload.entrypoints_plan]
  exact List.map_subset _ part

/-- A change of an entrypoint affects its category, whether it is reported below the folder as it is
configured or below the folder without links, and the build of what it affects is for it. -/
theorem changed_entrypoint_is_built (s : Session) (x : Executor σ) (state : σ)
    (named : (x.tree state).Named) {found : List Entrypoint}
    (discovered : Targets.discoverAll (x.tree state) x.cwd s.root s.config.targets names = .ok found)
    {e : Entrypoint} (he : e ∈ found) :
    ∃ place, (x.tree state).canonical x.cwd (s.root.join e.folder) = .ok place ∧
      ∀ p, p = s.root.join e.path ∨ p = place.join ⟨e.fileName⟩ →
        e.category ∈ s.affected x state p ∧
        ((∃ program, s.config.strategy.commandFor s.environment = .ok program) →
          (∀ name ∈ s.affected x state p, ∃ folder,
            s.config.targets.entrypointFolders.get? name = some folder ∧
              Targets.IsReadable (x.tree state) x.cwd (s.root.join folder)) →
          ∃ plan, (s.plan x state (s.affected x state p)).under s.config = .ok plan ∧
            ∃ i ∈ plan.invocations, e.path ∈ i.entrypoints) := by
  obtain ⟨category, -, folder, configured, here, inFolder, he⟩ :=
    Targets.exists_discover_of_discoverAll discovered he
  obtain ⟨name, isName, rfl⟩ := Targets.exists_name_of_discover named inFolder he
  have directory := (Targets.discover_eq_ok_iff.1 inFolder).1
  obtain ⟨place, canonical⟩ :=
    Tree.isThere_iff_exists_canonical.1 (Tree.isThere_of_isDirectory directory)
  refine ⟨place, canonical, fun p reported => ?_⟩
  have affects : category ∈ s.affected x state p := by
    rcases reported with rfl | rfl
    · exact mem_affected_of_spelled configured isName.isAbsolute
    · exact mem_affected_of_canonical configured canonical (Path.isAbsolute_fileName _)
  refine ⟨affects, fun ⟨program, command⟩ readable => ?_⟩
  obtain ⟨plan, planned, all⟩ :=
    exists_plan_of_isReadable command readable affects configured inFolder
  have mine := all (List.mem_map_of_mem he)
  exact ⟨plan, planned, List.mem_flatMap.1 mine⟩

def linked : Session where
  config := {
    targets := { entrypointFolders := .ofList [("js", ⟨"./src/../src/"⟩)] }
    strategy := { kind := .singleExecution, commands := .ofList [("test", "bundle")] } }
  configPath := ⟨"/p/config/bundler.toml"⟩
  root := ⟨"/p"⟩
  environment := ⟨"test"⟩

theorem changed_entrypoint_is_built_linked :
    Tree.linked.Named ∧ linked.affected .noting (.linked, []) ⟨"/p/js/app"⟩ = ["js"] ∧
    ∃ plan, (linked.plan .noting (.linked, []) ["js"]).under linked.config = .ok plan ∧
      ∃ i ∈ plan.invocations, ⟨"./src/../src/app"⟩ ∈ i.entrypoints := by
  have sound : Tree.linked.IsSound := by decide +kernel
  have readable : Targets.IsReadable Tree.linked [] (Path.join ⟨"/p"⟩ ⟨"./src/../src/"⟩) :=
    ⟨by decide +kernel, ["app"], rfl⟩
  have discovered : Targets.discoverAll Tree.linked [] ⟨"/p"⟩ linked.config.targets ["js"] =
      .ok [⟨"js", ⟨"./src/../src/"⟩, ⟨"./src/../src/app"⟩⟩] :=
    (Targets.discoverAll_singleton rfl).trans
      (Targets.discover_eq_ok_iff.2 ⟨readable.1, ["app"], rfl, by decide +kernel⟩)
  have affects : linked.affected .noting (.linked, []) ⟨"/p/js/app"⟩ = ["js"] := by decide +kernel
  obtain ⟨place, canonical, built⟩ := changed_entrypoint_is_built linked .noting (.linked, [])
    sound.names discovered List.mem_cons_self
  obtain rfl : ⟨"/p/js"⟩ = place := Except.ok.inj canonical
  obtain ⟨-, planned⟩ := built ⟨"/p/js/app"⟩ (.inr rfl)
  rw [affects] at planned
  refine ⟨sound.names, affects, planned ⟨"bundle", rfl⟩ fun name hname => ?_⟩
  obtain rfl := List.mem_singleton.1 hname
  exact ⟨_, rfl, readable⟩

end Session

end AssetWatch
