import AssetWatch.Proofs.Order.Members
import AssetWatch.Watch.Batch

/-!
# What batches hold

A batch holds the categories that its changes affect, and the paths of those of its changes that
affect any. Merging batches is the union of both.
-/

namespace AssetWatch

def Matcher.affects (m : Matcher) (path : Path) : Bool := !(m.categoriesFor path).isEmpty

theorem Matcher.affects_iff {m : Matcher} {path : Path} :
    m.affects path = true ↔ ∃ name, name ∈ (m.categoriesFor path).toList := by
  simp [affects, Sorted.isEmpty, List.eq_nil_iff_forall_not_mem]

namespace Batch

variable {m : Matcher}

theorem isEmpty_iff {b : Batch} : b.isEmpty = true ↔ ∀ name, name ∉ b.categories.toList := by
  simp [isEmpty, Sorted.isEmpty, List.eq_nil_iff_forall_not_mem]

theorem mem_categories_merge {a b : Batch} {name : String} :
    name ∈ (a.merge b).categories.toList ↔
      name ∈ a.categories.toList ∨ name ∈ b.categories.toList :=
  NameSet.mem_union

theorem mem_categories_foldl_merge {first : Batch} {rest : List Batch} {name : String} :
    name ∈ (rest.foldl merge first).categories.toList ↔
      ∃ b ∈ first :: rest, name ∈ b.categories.toList := by
  induction rest generalizing first with
  | nil => simp
  | cons b rest ih =>
    rw [List.foldl_cons, ih]
    simp [mem_categories_merge, or_assoc]

theorem add_of_not_affects {b : Batch} {path : Path} (h : m.affects path = false) :
    b.add m path = b := by
  have he : (m.categoriesFor path).isEmpty = true := by simpa [Matcher.affects] using h
  simp [add, he]

private theorem add_of_affects {b : Batch} {path : Path} (h : m.affects path = true) :
    b.add m path =
      { categories := b.categories.union (m.categoriesFor path), paths := b.paths.insert path } := by
  have he : (m.categoriesFor path).isEmpty = false := by simpa [Matcher.affects] using h
  simp [add, he]

theorem mem_categories_add {b : Batch} {path : Path} {name : String} :
    name ∈ (b.add m path).categories.toList ↔
      name ∈ b.categories.toList ∨ name ∈ (m.categoriesFor path).toList := by
  cases h : m.affects path with
  | true => rw [add_of_affects h, NameSet.mem_union]
  | false =>
    have hn : name ∉ (m.categoriesFor path).toList := fun hn => by
      simp [Matcher.affects_iff.2 ⟨name, hn⟩] at h
    rw [add_of_not_affects h]
    simp [hn]

theorem mem_categories_foldl_add {b : Batch} {paths : List Path} {name : String} :
    name ∈ (paths.foldl (add m) b).categories.toList ↔
      name ∈ b.categories.toList ∨ ∃ path ∈ paths, name ∈ (m.categoriesFor path).toList := by
  induction paths generalizing b with
  | nil => simp
  | cons path paths ih =>
    rw [List.foldl_cons, ih, mem_categories_add]
    simp [or_assoc]

theorem paths_foldl_add {b : Batch} {paths : List Path} :
    (paths.foldl (add m) b).paths = b.paths.insertMany (paths.filter m.affects) := by
  induction paths generalizing b with
  | nil => rfl
  | cons path paths ih =>
    rw [List.foldl_cons, ih]
    cases h : m.affects path with
    | true => rw [add_of_affects h, List.filter_cons_of_pos h]; rfl
    | false => rw [add_of_not_affects h, List.filter_cons_of_neg (by simp [h])]

/-- The batch of a burst has exactly the categories that its changes affect. -/
theorem mem_categories_ofPaths {paths : List Path} {name : String} :
    name ∈ (ofPaths m paths).categories.toList ↔
      ∃ path ∈ paths, name ∈ (m.categoriesFor path).toList := by
  rw [ofPaths, mem_categories_foldl_add]
  simp [Sorted.empty]

/-- Of the changes that affect a category, the batch has each path in its first spelling. -/
theorem mem_paths_ofPaths {paths : List Path} {path : Path} :
    path ∈ (ofPaths m paths).paths.toList ↔
      Sorted.IsFirst Path.key path (paths.filter m.affects) := by
  rw [ofPaths, paths_foldl_add]
  exact Sorted.mem_ofList

theorem isEmpty_ofPaths {paths : List Path} :
    (ofPaths m paths).isEmpty = true ↔ ∀ path ∈ paths, m.affects path = false := by
  rw [isEmpty_iff]
  constructor
  · intro h path hp
    rw [← Bool.not_eq_true, Matcher.affects_iff]
    rintro ⟨name, hn⟩
    exact h name (mem_categories_ofPaths.2 ⟨path, hp, hn⟩)
  · intro h name hn
    obtain ⟨path, hp, hn⟩ := mem_categories_ofPaths.1 hn
    have ha : m.affects path = true := Matcher.affects_iff.2 ⟨name, hn⟩
    rw [h path hp] at ha
    cases ha

end Batch

end AssetWatch
