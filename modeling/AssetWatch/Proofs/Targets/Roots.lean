import AssetWatch.Proofs.Path.Components
import AssetWatch.Proofs.Targets.Attribution
import Mathlib.Data.List.Pairwise

/-!
# The folders to watch

The roots of a matcher are paths of its folders, none under another, and every folder lies under
one of them. So a change affects some category exactly if it lies under a root.
-/

namespace AssetWatch

open Host (Tree Place)

namespace Path

variable {p q : Path}

/-- A path comes before everything that lies under it. -/
theorem not_startsWith_of_key_lt (h : p.key < q.key) : p.startsWith q ≠ true := fun under =>
  ((startsWith_iff.1 under).map Component.key).le h

def Apart (p q : Path) : Prop := p.startsWith q ≠ true ∧ q.startsWith p ≠ true

instance : Std.Symm Apart := ⟨fun _ _ => And.symm⟩

end Path

namespace Matcher

variable {m : Matcher} {kept paths : List Path} {path root : Path}

/-! ## Leaving out nested paths -/

private theorem mem_dropNested_of_kept (h : path ∈ kept) : path ∈ dropNested kept paths := by
  induction paths generalizing kept with
  | nil => exact h
  | cons next paths ih =>
    rw [dropNested]
    split
    · exact ih h
    · exact ih (List.mem_append_left _ h)

private theorem mem_of_mem_dropNested (h : path ∈ dropNested kept paths) :
    path ∈ kept ∨ path ∈ paths := by
  induction paths generalizing kept with
  | nil => exact .inl h
  | cons next paths ih =>
    rw [dropNested] at h
    split at h
    · exact (ih h).imp_right (List.mem_cons_of_mem _)
    · rcases ih h with h | h
      · rcases List.mem_append.1 h with h | h
        · exact .inl h
        · exact .inr (List.mem_singleton.1 h ▸ List.mem_cons_self)
      · exact .inr (List.mem_cons_of_mem _ h)

/-- What is left out lies under something that is kept. -/
theorem exists_dropNested (h : path ∈ paths) :
    ∃ root ∈ dropNested kept paths, path.startsWith root = true := by
  induction paths generalizing kept with
  | nil => cases h
  | cons next paths ih =>
    rw [dropNested]
    rcases List.mem_cons.1 h with rfl | h
    · split
      · rename_i nested
        obtain ⟨root, hroot, under⟩ := List.any_eq_true.1 nested
        exact ⟨root, mem_dropNested_of_kept hroot, under⟩
      · exact ⟨path, mem_dropNested_of_kept (by simp), path.startsWith_refl⟩
    · split <;> exact ih h

/-- Where no path lies under a later one, none of those that are kept lies under another. -/
theorem pairwise_dropNested (apart : kept.Pairwise Path.Apart)
    (later : ∀ p ∈ kept, ∀ q ∈ paths, p.startsWith q ≠ true)
    (ordered : paths.Pairwise fun p q => p.startsWith q ≠ true) :
    (dropNested kept paths).Pairwise Path.Apart := by
  induction paths generalizing kept with
  | nil => exact apart
  | cons next paths ih =>
    obtain ⟨first, ordered⟩ := List.pairwise_cons.1 ordered
    rw [dropNested]
    split
    · exact ih apart (fun p hp q hq => later p hp q (List.mem_cons_of_mem _ hq)) ordered
    · rename_i outside
      have outside : ∀ p ∈ kept, next.startsWith p ≠ true := fun p hp under =>
        outside (List.any_eq_true.2 ⟨p, hp, under⟩)
      refine ih (List.pairwise_append.2 ⟨apart, List.pairwise_singleton .., ?_⟩) ?_ ordered
      · intro p hp q hq
        obtain rfl := List.mem_singleton.1 hq
        exact ⟨later p hp q List.mem_cons_self, outside p hp⟩
      · intro p hp q hq
        rcases List.mem_append.1 hp with hp | hp
        · exact later p hp q (List.mem_cons_of_mem _ hq)
        · exact List.mem_singleton.1 hp ▸ first q hq

/-! ## Roots -/

/-- A root is the first spelling of a folder among all folders. -/
theorem isFirst_of_mem_watchRoots (h : root ∈ m.watchRoots) :
    Sorted.IsFirst Path.key root (m.folders.map (·.1)) :=
  Sorted.mem_ofList.1 ((mem_of_mem_dropNested h).resolve_left (List.not_mem_nil))

/-- Of several spellings of one folder the first is the root. -/
theorem eq_of_mem_watchRoots {first : Path} {others : List Path}
    (known : m.folders.map (·.1) = first :: others) (same : ∀ p ∈ others, p.key = first.key)
    (h : root ∈ m.watchRoots) : root = first := by
  have isFirst := isFirst_of_mem_watchRoots h
  rw [known] at isFirst
  refine (Sorted.isFirst_cons.1 isFirst).resolve_right fun ⟨differs, isFirst⟩ => ?_
  exact differs (same _ isFirst.mem).symm

theorem exists_folder_of_mem_watchRoots (h : root ∈ m.watchRoots) :
    ∃ name, (root, name) ∈ m.folders := by
  obtain ⟨⟨_, name⟩, hf, rfl⟩ := List.mem_map.1 (isFirst_of_mem_watchRoots h).mem
  exact ⟨name, hf⟩

/-- Every folder lies under a root. -/
theorem exists_watchRoot {name : String} (h : (path, name) ∈ m.folders) :
    ∃ root ∈ m.watchRoots, path.startsWith root = true := by
  have among : path ∈ m.folders.map (·.1) := List.mem_map_of_mem h
  obtain ⟨first, isFirst, same⟩ : ∃ first,
      Sorted.IsFirst Path.key first (m.folders.map (·.1)) ∧ first.key = path.key :=
    Sorted.exists_isFirst among
  obtain ⟨root, hroot, under⟩ : ∃ root ∈ m.watchRoots, first.startsWith root = true :=
    exists_dropNested (Sorted.mem_ofList.2 isFirst)
  refine ⟨root, hroot, Path.startsWith_iff.2 ?_⟩
  rw [← Path.key_eq_iff.1 same]
  exact Path.startsWith_iff.1 under

theorem pairwise_watchRoots (m : Matcher) : m.watchRoots.Pairwise Path.Apart := by
  refine pairwise_dropNested .nil nofun (List.Pairwise.imp ?_ (Sorted.increasing _))
  exact Path.not_startsWith_of_key_lt

/-- A path lies under one root at most. -/
theorem watchRoot_unique {r s : Path} (hr : r ∈ m.watchRoots) (hs : s ∈ m.watchRoots)
    (underR : path.startsWith r = true) (underS : path.startsWith s = true) : r = s := by
  by_contra other
  obtain ⟨rs, sr⟩ := m.pairwise_watchRoots.forall hr hs other
  rcases List.prefix_or_prefix_of_prefix (Path.startsWith_iff.1 underR)
      (Path.startsWith_iff.1 underS) with front | front
  · exact sr (Path.startsWith_iff.2 front)
  · exact rs (Path.startsWith_iff.2 front)

/-- A change affects some category exactly if it lies under a root. -/
theorem isEmpty_categoriesFor_iff :
    (m.categoriesFor path).isEmpty = false ↔ ∃ root ∈ m.watchRoots, path.startsWith root = true := by
  rw [Sorted.isEmpty, List.isEmpty_eq_false_iff_exists_mem]
  simp only [mem_categoriesFor]
  constructor
  · rintro ⟨name, folder, known, under⟩
    obtain ⟨root, hroot, above⟩ := exists_watchRoot known
    exact ⟨root, hroot, Path.startsWith_trans under above⟩
  · rintro ⟨root, hroot, under⟩
    obtain ⟨name, known⟩ := exists_folder_of_mem_watchRoots hroot
    exact ⟨name, root, known, under⟩

end Matcher

end AssetWatch
