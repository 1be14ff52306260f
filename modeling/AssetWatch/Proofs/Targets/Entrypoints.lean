import AssetWatch.Proofs.Host.Walks
import AssetWatch.Targets.Discovery

/-!
# What is discovered

Every entrypoint is an entry of the entrypoint folder of its category, and keeps the folder as it is
configured. A folder can be searched exactly if it is a directory whose entries can be listed.
-/

namespace AssetWatch

open Host (Tree Place IsName)

/-! ## Entries of a directory -/

namespace Host.Tree

variable {t : Tree} {cwd : Place} {p : Path}

def Named (t : Tree) : Prop := ∀ entry ∈ t.places, ∀ name ∈ entry.1, IsName name

theorem isThere_of_isDirectory (h : t.isDirectory cwd p = true) : t.isThere cwd p = true := by
  unfold isDirectory at h
  unfold isThere
  cases found : t.stat cwd p with
  | error fault => simp [found] at h
  | ok here => rfl

theorem isName_of_mem_names {dir : Place} {name : String} (named : t.Named)
    (h : name ∈ t.names dir) : IsName name := by
  obtain ⟨number, entry⟩ := mem_names.1 h
  exact named _ entry _ (by simp)

theorem isName_of_mem_list {names : List String} {name : String} (named : t.Named)
    (listed : t.list cwd p = .ok names) (h : name ∈ names) : IsName name := by
  obtain ⟨links, found, -, -, rfl⟩ := list_eq_ok_iff.1 listed
  exact isName_of_mem_names named h

end Host.Tree

namespace Targets

variable {tree : Tree} {cwd : Place} {root folder : Path} {targets : Targets} {category : String}
  {names : List String} {found : List Entrypoint} {e : Entrypoint}

/-! ## Entrypoints of folders -/

def IsReadable (tree : Tree) (cwd : Place) (dir : Path) : Prop :=
  tree.isDirectory cwd dir = true ∧ ∃ names, tree.list cwd dir = .ok names

theorem discover_eq_ok_iff : discover tree cwd root category folder = .ok found ↔
    tree.isDirectory cwd (root.join folder) = true ∧
      ∃ names, tree.list cwd (root.join folder) = .ok names ∧
        entrypoints (fun name => tree.isFile cwd ((root.join folder).join name)) category folder
          names = found := by
  unfold discover
  dsimp only
  cases tree.isDirectory cwd (root.join folder) with
  | false => simp
  | true => cases tree.list cwd (root.join folder) <;> simp

theorem exists_discover_iff : (∃ found, discover tree cwd root category folder = .ok found) ↔
    IsReadable tree cwd (root.join folder) := by
  simp only [discover_eq_ok_iff, IsReadable]
  constructor
  · rintro ⟨_, directory, names, listed, -⟩
    exact ⟨directory, names, listed⟩
  · rintro ⟨directory, names, listed⟩
    exact ⟨_, directory, names, listed, rfl⟩

theorem mem_entrypoints {isFile : Path → Bool} : e ∈ entrypoints isFile category folder names ↔
    ∃ name ∈ names, (Entrypoint.isName name = true ∧ isFile ⟨name⟩ = true) ∧
      e = ⟨category, folder, folder.join ⟨name⟩⟩ := by
  simp only [entrypoints, List.mem_mergeSort, List.mem_map, List.mem_filter, Bool.and_eq_true,
    and_assoc, eq_comm (a := e)]

/-- An entrypoint is an entry of the folder it was found in. -/
theorem exists_name_of_discover (named : tree.Named)
    (h : discover tree cwd root category folder = .ok found) (he : e ∈ found) :
    ∃ name, IsName name ∧ e = ⟨category, folder, folder.join ⟨name⟩⟩ := by
  obtain ⟨-, names, listed, rfl⟩ := discover_eq_ok_iff.1 h
  obtain ⟨name, among, -, rfl⟩ := mem_entrypoints.1 he
  exact ⟨name, Tree.isName_of_mem_list named listed among, rfl⟩

/-- What is discovered for several categories was discovered in the folder of one of them. -/
theorem exists_discover_of_discoverAll (h : discoverAll tree cwd root targets names = .ok found)
    (he : e ∈ found) : ∃ category ∈ names, ∃ folder, targets.entrypointFolders.get? category =
      some folder ∧ ∃ here, discover tree cwd root category folder = .ok here ∧ e ∈ here := by
  induction names generalizing found with
  | nil =>
    cases h
    cases he
  | cons first names ih =>
    rw [discoverAll] at h
    split at h
    · cases h
    · rename_i folder configured
      cases here : discover tree cwd root first folder with
      | error error => simp [here, bind, Except.bind] at h
      | ok inFolder =>
        cases rest : discoverAll tree cwd root targets names with
        | error error => simp [here, rest, bind, Except.bind] at h
        | ok others =>
          obtain rfl : inFolder ++ others = found := by
            simpa [here, rest, bind, Except.bind, pure, Except.pure] using h
          rcases List.mem_append.1 he with he | he
          · exact ⟨first, List.mem_cons_self, folder, configured, inFolder, here, he⟩
          · obtain ⟨category, among, discovered⟩ := ih rest he
            exact ⟨category, List.mem_cons_of_mem _ among, discovered⟩

end Targets

end AssetWatch
