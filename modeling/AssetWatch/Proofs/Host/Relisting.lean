import AssetWatch.Proofs.Host.Places

/-!
# The order of a listing

The order in which a system lists a directory is its own affair. Trees that differ in nothing else
have the same entries at the same places, and paths lead to the same.
-/

namespace AssetWatch.Host.Tree

variable {t t' : Tree} {cwd place : Place} {p : Path}

/-- The same tree, perhaps listed in another order. No place is there twice. -/
structure IsRelisted (t t' : Tree) : Prop where
  once : (t.places.map (·.1)).Nodup
  places : t.places.Perm t'.places
  nodes : t.nodes = t'.nodes

/-- Where no place is twice, the entry of a place is the one it is found by. -/
theorem lookup_eq_some_iff {places : List (Place × Nat)} (once : (places.map (·.1)).Nodup)
    {number : Nat} : places.lookup place = some number ↔ (place, number) ∈ places := by
  rw [List.lookup_eq_some_iff]
  constructor
  · rintro ⟨before, after, rfl, -⟩
    exact List.mem_append_right _ List.mem_cons_self
  · intro h
    obtain ⟨before, after, rfl⟩ := List.append_of_mem h
    rw [List.map_append, List.map_cons, List.nodup_append] at once
    refine ⟨before, after, rfl, fun entry earlier => ?_⟩
    have differs := once.2.2 entry.1 (List.mem_map.2 ⟨entry, earlier, rfl⟩) place List.mem_cons_self
    simpa using differs.symm

/-- No name is listed twice. -/
theorem nodup_names (once : (t.places.map (·.1)).Nodup) (dir : Place) : (t.names dir).Nodup := by
  rw [names_eq, List.Nodup, List.pairwise_filterMap]
  refine (List.pairwise_map.1 once).imp fun differs name called other called' same => differs ?_
  rw [nameIn?_eq_some_iff.1 called, nameIn?_eq_some_iff.1 called', same]

namespace IsRelisted

private theorem at?_eq (h : t.IsRelisted t') (place : Place) : t.at? place = t'.at? place := by
  have once : (t'.places.map (·.1)).Nodup := (h.places.map _).nodup_iff.1 h.once
  have number : t.number? place = t'.number? place := by
    unfold number?
    split
    · rfl
    · refine Option.ext fun number => ?_
      rw [lookup_eq_some_iff h.once, lookup_eq_some_iff once, h.places.mem_iff]
  simp only [at?, number, node?, h.nodes]

private theorem stride_eq (h : t.IsRelisted t') (follow : Bool) (dir : Place) (todo : List String) :
    t.stride follow dir todo = t'.stride follow dir todo := by
  induction todo generalizing dir with
  | nil => rw [stride, stride, h.at?_eq]
  | cons piece todo ih => simp only [stride, h.at?_eq, ih]

private theorem walk_eq (h : t.IsRelisted t') (follow : Bool) (links : Nat) (dir : Place)
    (todo : List String) : t.walk follow links dir todo = t'.walk follow links dir todo := by
  induction links generalizing dir todo with
  | zero => rw [walk.eq_def, walk.eq_def, h.stride_eq]
  | succ links ih =>
    rw [walk.eq_def, walk.eq_def, h.stride_eq]
    simp only [ih]

theorem locate_eq (h : t.IsRelisted t') (cwd : Place) (p : Path) :
    t.locate cwd p = t'.locate cwd p := by
  simp only [locate, h.at?_eq, h.walk_eq]

theorem isFile_eq (h : t.IsRelisted t') (cwd : Place) (p : Path) :
    t.isFile cwd p = t'.isFile cwd p := by
  simp only [isFile, stat, h.locate_eq]

theorem isDirectory_eq (h : t.IsRelisted t') (cwd : Place) (p : Path) :
    t.isDirectory cwd p = t'.isDirectory cwd p := by
  simp only [isDirectory, stat, h.locate_eq]

theorem perm_names (h : t.IsRelisted t') (dir : Place) : (t.names dir).Perm (t'.names dir) :=
  h.places.filterMap _

end IsRelisted

end AssetWatch.Host.Tree
