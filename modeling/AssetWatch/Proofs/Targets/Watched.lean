import AssetWatch.Proofs.Host.Spellings
import AssetWatch.Proofs.Session.Planning
import AssetWatch.Proofs.Targets.Roots
import AssetWatch.Watch.Observation

/-!
# Which folders are really watched

Every folder that is there lies, without links, under one root, and a change under either of its
paths affects its category. Whether the root is there itself depends on its spelling alone: of
several spellings of a root the one that was configured first is kept, also if it is too long to
be used, or asks for a directory where a file is.
-/

namespace AssetWatch

open Host (Tree Place)

/-- A path that is not there is passed over. -/
theorem Observation.addDeep_of_not_isThere {o : Observation} {t : Tree} {cwd : Place} {path : Path}
    {hearsSelf : Bool} (h : t.isThere cwd path = false) : o.addDeep t cwd path hearsSelf = o := by
  unfold addDeep
  cases located : t.locate cwd path with
  | error fault => rfl
  | ok f =>
    obtain ⟨place, _ | here⟩ := f
    · rfl
    · rw [Tree.isThere_of_found located rfl] at h
      cases h

private theorem Observation.start_of_not_isThere {t : Tree} {cwd : Place} {roots : List Path}
    (h : ∀ r ∈ roots, t.isThere cwd r = false) : start t cwd roots = {} := by
  have passed : ∀ o : Observation, roots.foldl (fun o r => o.addDeep t cwd r true) o = o := by
    induction roots with
    | nil => exact fun _ => rfl
    | cons r roots ih =>
      obtain ⟨first, others⟩ := List.forall_mem_cons.1 h
      intro o
      rw [List.foldl_cons, addDeep_of_not_isThere first, ih others]
  exact passed {}

namespace Matcher

variable {tree : Tree} {cwd : Place} {root path folder : Path} {targets : Targets} {name : String}

/-- A folder is known as it is joined to the root, and, if that differs, without links. -/
theorem mem_spellings : path ∈ spellings tree cwd root folder ↔
    path = root.join folder ∨
      tree.canonical cwd (root.join folder) = .ok path ∧ path.sameAs (root.join folder) ≠ true := by
  unfold spellings
  dsimp only
  cases tree.canonical cwd (root.join folder) with
  | error fault => simp
  | ok canonical =>
    dsimp only
    split
    · rename_i same
      simp only [List.mem_singleton, Except.ok.injEq]
      exact ⟨.inl, fun h => h.elim id fun ⟨he, differs⟩ => absurd (he ▸ same) differs⟩
    · rename_i differs
      simp only [List.mem_cons, List.not_mem_nil, or_false, Except.ok.injEq]
      rw [or_comm]
      exact or_congr_right ⟨fun he => ⟨he.symm, he ▸ differs⟩, fun h => h.1.symm⟩

private theorem spellings_of_not_isThere (h : tree.isThere cwd (root.join folder) = false) :
    spellings tree cwd root folder = [root.join folder] := by
  unfold spellings
  dsimp only
  cases canonical : tree.canonical cwd (root.join folder) with
  | error fault => rfl
  | ok found =>
    rw [Tree.isThere_iff_exists_canonical.2 ⟨found, canonical⟩] at h
    cases h

/-- A change affects the categories of the folders it lies under, by either of their paths. -/
theorem mem_categoriesFor_ofTargets :
    name ∈ ((ofTargets tree cwd root targets).categoriesFor path).toList ↔
      ∃ folder, targets.HasFolder name folder ∧ (path.startsWith (root.join folder) = true ∨
        ∃ found, tree.canonical cwd (root.join folder) = .ok found ∧ path.startsWith found = true) := by
  simp only [mem_categoriesFor, mem_folders_ofTargets, mem_spellings]
  constructor
  · rintro ⟨known, ⟨folder, has, rfl | ⟨h, -⟩⟩, under⟩
    · exact ⟨folder, has, .inl under⟩
    · exact ⟨folder, has, .inr ⟨known, h, under⟩⟩
  · rintro ⟨folder, has, under | ⟨found, h, under⟩⟩
    · exact ⟨_, ⟨folder, has, .inl rfl⟩, under⟩
    · by_cases same : found.sameAs (root.join folder) = true
      · refine ⟨_, ⟨folder, has, .inl rfl⟩, Path.startsWith_iff.2 ?_⟩
        rw [← Path.sameAs_iff.1 same]
        exact Path.startsWith_iff.1 under
      · exact ⟨found, ⟨folder, has, .inr ⟨h, same⟩⟩, under⟩

/-- The one root above a real place, which is there as far as it can be used as it is spelled. -/
structure IsRootOf (tree : Tree) (cwd : Place) (m : Matcher) (place : Place) (r : Path) : Prop where
  root : r ∈ m.watchRoots
  above : place.toPath.startsWith r = true
  only : ∀ other ∈ m.watchRoots, place.toPath.startsWith other = true → other = r
  there : tree.isThere cwd r = true ↔ tree.IsUsable place r

private theorem exists_isRootOf (real : tree.CanonicalIsReal cwd)
    (has : targets.HasFolder name folder)
    (there : tree.isThere cwd (root.join folder) = true) :
    ∃ place r, tree.canonical cwd (root.join folder) = .ok place.toPath ∧
      IsRootOf tree cwd (ofTargets tree cwd root targets) place r := by
  obtain ⟨found, canonical⟩ := Tree.isThere_iff_exists_canonical.1 there
  obtain ⟨place, rfl, isReal⟩ := real _ _ canonical
  have affected : ((ofTargets tree cwd root targets).categoriesFor place.toPath).isEmpty = false := by
    rw [Sorted.isEmpty, List.isEmpty_eq_false_iff_exists_mem]
    exact ⟨name, mem_categoriesFor_ofTargets.2
      ⟨folder, has, .inr ⟨_, canonical, Path.startsWith_refl _⟩⟩⟩
  obtain ⟨r, hr, above⟩ := isEmpty_categoriesFor_iff.1 affected
  refine ⟨place, r, canonical, hr, above, fun other ho under => ?_, ?_⟩
  · exact watchRoot_unique ho hr under above
  · exact Tree.isThere_iff_isUsable isReal above

/-- Every folder that is there lies under one root, and changes are attributed by the folders they
lie under. -/
theorem folders_are_covered (real : tree.CanonicalIsReal cwd) :
    (∀ name folder, targets.HasFolder name folder → tree.isThere cwd (root.join folder) = true →
      ∃ place r, tree.canonical cwd (root.join folder) = .ok place.toPath ∧
        IsRootOf tree cwd (ofTargets tree cwd root targets) place r ∧
        ∀ path, path.startsWith (root.join folder) = true ∨ path.startsWith place.toPath = true →
          name ∈ ((ofTargets tree cwd root targets).categoriesFor path).toList) ∧
    (∀ path name, name ∈ ((ofTargets tree cwd root targets).categoriesFor path).toList ↔
      ∃ folder, targets.HasFolder name folder ∧ (path.startsWith (root.join folder) = true ∨
        ∃ found, tree.canonical cwd (root.join folder) = .ok found ∧
          path.startsWith found = true)) ∧
    (∀ path, ((ofTargets tree cwd root targets).categoriesFor path).isEmpty = false ↔
      ∃ r ∈ (ofTargets tree cwd root targets).watchRoots, path.startsWith r = true) := by
  refine ⟨fun name folder has there => ?_, fun _ _ => mem_categoriesFor_ofTargets,
    fun _ => isEmpty_categoriesFor_iff⟩
  obtain ⟨place, r, canonical, isRoot⟩ := exists_isRootOf real has there
  refine ⟨place, r, canonical, isRoot, fun path under => mem_categoriesFor_ofTargets.2 ?_⟩
  exact ⟨folder, has, under.imp_right fun under => ⟨_, canonical, under⟩⟩

end Matcher

def Host.Tree.linked : Tree where
  places := [(["p"], 1), (["p", "js"], 2), (["p", "js", "app"], 3), (["p", "src"], 4)]
  nodes :=
    let directory : Host.Node := ⟨.directory, 0o755, 0⟩
    #[directory, directory, directory, ⟨.file ByteArray.empty, 0o644, 0⟩,
      ⟨.link ⟨"js"⟩, 0o777, 0⟩]

def Targets.linked : Targets where
  entrypointFolders := .ofList [("js", ⟨"js"⟩)]
  watch := .ofList [("js", [⟨"src"⟩])]

theorem Matcher.folders_are_covered_linked :
    Tree.linked.CanonicalIsReal [] ∧ Targets.linked.HasFolder "js" ⟨"src"⟩ ∧
    Tree.linked.isThere [] (Path.join ⟨"/p"⟩ ⟨"src"⟩) = true ∧
    ∃ place r, Tree.linked.canonical [] (Path.join ⟨"/p"⟩ ⟨"src"⟩) = .ok place.toPath ∧
      IsRootOf .linked [] (ofTargets .linked [] ⟨"/p"⟩ .linked) place r ∧
      ∀ path, path.startsWith (Path.join ⟨"/p"⟩ ⟨"src"⟩) = true ∨
        path.startsWith place.toPath = true →
          "js" ∈ ((ofTargets .linked [] ⟨"/p"⟩ .linked).categoriesFor path).toList := by
  have sound : Tree.linked.IsSound := by decide +kernel
  have real : Tree.linked.CanonicalIsReal [] := sound.canonicalIsReal sound.top
  have has : Targets.linked.HasFolder "js" ⟨"src"⟩ :=
    .inl ⟨[⟨"src"⟩], List.mem_cons_self, List.mem_cons_self⟩
  have there : Tree.linked.isThere [] (Path.join ⟨"/p"⟩ ⟨"src"⟩) = true := by decide +kernel
  exact ⟨real, has, there, (folders_are_covered real).1 _ _ has there⟩

/-! ## A folder whose first spelling is too long -/

def Targets.respelled : Targets where
  entrypointFolders := .ofList [("js", ⟨"js"⟩)]
  watch := .ofList [("js", [Path.respelled ⟨"js"⟩ 2100, ⟨"js"⟩])]

namespace Matcher

/-- The folder is there, none of the roots that stand for it is, and nothing is observed. -/
theorem respelled_folder_not_watched :
    Tree.CanonicalIsReal (.ofFolders ["js"]) [] ∧ Targets.respelled.HasFolder "js" ⟨"js"⟩ ∧
      Tree.isThere (.ofFolders ["js"]) [] (Path.join ⟨"/p"⟩ ⟨"js"⟩) = true ∧
      (∀ r ∈ (ofTargets (.ofFolders ["js"]) [] ⟨"/p"⟩ .respelled).watchRoots,
        Tree.isThere (.ofFolders ["js"]) [] r = false) ∧
      Observation.start (.ofFolders ["js"]) []
        (ofTargets (.ofFolders ["js"]) [] ⟨"/p"⟩ .respelled).watchRoots = {} := by
  have sound : (Tree.ofFolders ["js"]).IsSound := by decide +kernel
  have isThere : Tree.isThere (.ofFolders ["js"]) [] (Path.join ⟨"/p"⟩ ⟨"js"⟩) = true := rfl
  have named : (⟨"js"⟩ : Path).text ≠ "" := by decide
  have joined : Path.join ⟨"/p"⟩ (.respelled ⟨"js"⟩ 2100) =
      (Path.join ⟨"/p"⟩ ⟨"js"⟩).respelled 2100 := Path.join_respelled named 2100
  have overlong : Tree.isThere (.ofFolders ["js"]) [] (Path.join ⟨"/p"⟩ (.respelled ⟨"js"⟩ 2100)) =
      false := by
    refine Tree.isThere_of_unusable (.inr ?_)
    rw [joined, Path.utf8ByteSize_respelled]
    omega
  have spelled : spellings (.ofFolders ["js"]) [] ⟨"/p"⟩ ⟨"js"⟩ = [Path.join ⟨"/p"⟩ ⟨"js"⟩] := rfl
  have known : (ofTargets (.ofFolders ["js"]) [] ⟨"/p"⟩ .respelled).folders.map (·.1) =
      Path.join ⟨"/p"⟩ (.respelled ⟨"js"⟩ 2100) ::
        [Path.join ⟨"/p"⟩ ⟨"js"⟩, Path.join ⟨"/p"⟩ ⟨"js"⟩] := by
    have watch : Targets.respelled.watch.toList =
      [("js", [Path.respelled ⟨"js"⟩ 2100, ⟨"js"⟩])] := rfl
    have entrypoints : Targets.respelled.entrypointFolders.toList = [("js", ⟨"js"⟩)] := rfl
    simp only [ofTargets, watch, entrypoints, List.flatMap_cons, List.flatMap_nil,
      spellings_of_not_isThere overlong, spelled, List.map_cons, List.map_nil, List.append_nil,
      List.cons_append, List.nil_append]
  have missing : ∀ r ∈ (ofTargets (.ofFolders ["js"]) [] ⟨"/p"⟩ .respelled).watchRoots,
      Tree.isThere (.ofFolders ["js"]) [] r = false := by
    intro r hr
    rw [eq_of_mem_watchRoots known (fun p hp => ?_) hr]
    · exact overlong
    · obtain rfl : p = Path.join ⟨"/p"⟩ ⟨"js"⟩ := by simpa using hp
      rw [Path.key_eq_iff, joined, Path.components_respelled (by decide)]
  exact ⟨sound.canonicalIsReal sound.top, .inr List.mem_cons_self, isThere, missing,
    Observation.start_of_not_isThere missing⟩

end Matcher

end AssetWatch
