import AssetWatch.Proofs.Order.Members
import AssetWatch.Targets.Matcher

/-!
# Which categories a change affects

A matcher knows every folder of its targets by its spellings, with the category the folder
belongs to. A change affects the categories of the folders it lies in, and no category that the
targets do not name.
-/

namespace AssetWatch

open Host (Tree Place)

def Targets.HasFolder (t : Targets) (name : String) (folder : Path) : Prop :=
  (∃ folders, (name, folders) ∈ t.watch.toList ∧ folder ∈ folders) ∨
    (name, folder) ∈ t.entrypointFolders.toList

theorem Targets.HasFolder.mem_keys {t : Targets} {name : String} {folder : Path}
    (h : t.HasFolder name folder) : name ∈ t.entrypointFolders.keys ∨ name ∈ t.watch.keys := by
  rcases h with ⟨folders, h, -⟩ | h
  · exact .inr (List.mem_map_of_mem h)
  · exact .inl (List.mem_map_of_mem h)

namespace Matcher

variable {m : Matcher} {tree : Tree} {cwd : Place} {root path : Path} {targets : Targets}
  {name : String}

theorem mem_categoriesFor :
    name ∈ (m.categoriesFor path).toList ↔
      ∃ folder, (folder, name) ∈ m.folders ∧ path.startsWith folder = true := by
  rw [categoriesFor, NameSet.mem_ofList]
  simp

theorem mem_folders_ofTargets :
    (path, name) ∈ (ofTargets tree cwd root targets).folders ↔
      ∃ folder, targets.HasFolder name folder ∧ path ∈ spellings tree cwd root folder := by
  simp only [ofTargets, Targets.HasFolder, List.mem_append, List.mem_flatMap, List.mem_map,
    Prod.exists, Prod.mk.injEq]
  constructor
  · rintro (⟨_, folders, h, folder, hf, p, hp, rfl, rfl⟩ | ⟨_, folder, h, p, hp, rfl, rfl⟩)
    · exact ⟨folder, .inl ⟨folders, h, hf⟩, hp⟩
    · exact ⟨folder, .inr h, hp⟩
  · rintro ⟨folder, ⟨folders, h, hf⟩ | h, hp⟩
    · exact .inl ⟨name, folders, h, folder, hf, path, hp, rfl, rfl⟩
    · exact .inr ⟨name, folder, h, path, hp, rfl, rfl⟩

/-- A change affects only categories that the targets name. -/
theorem mem_keys_of_categoriesFor
    (h : name ∈ ((ofTargets tree cwd root targets).categoriesFor path).toList) :
    name ∈ targets.entrypointFolders.keys ∨ name ∈ targets.watch.keys := by
  obtain ⟨folder, hm, -⟩ := mem_categoriesFor.1 h
  obtain ⟨configured, has, -⟩ := mem_folders_ofTargets.1 hm
  exact has.mem_keys

end Matcher

end AssetWatch
