import AssetWatch.Proofs.Order.Members

/-!
# Unions of sorted collections

A collection is settled by its members. So unions can be grouped at will, the union with itself or
with nothing changes nothing, and both orders of a union have the same keys. Of two lists put
together the collection is the union of the two collections.
-/

namespace AssetWatch.Sorted

variable {α κ : Type} {key : α → κ} [LT κ] [Trans (α := κ) (· < ·) (· < ·) (· < ·)]
  [Std.Irrefl (α := κ) (· < ·)]

omit [Trans (α := κ) (· < ·) (· < ·) (· < ·)] in
theorem nodup_keys (s : Sorted key) : (s.toList.map key).Nodup :=
  List.pairwise_map.2 (s.increasing.imp key_ne_of_lt)

/-- Collections whose elements have the same keys have them in the same order. -/
theorem map_key_eq {s t : Sorted key} (h : ∀ k, k ∈ s.toList.map key ↔ k ∈ t.toList.map key) :
    s.toList.map key = t.toList.map key := by
  have perm : (s.toList.map key).Perm (t.toList.map key) :=
    (List.perm_ext_iff_of_nodup s.nodup_keys t.nodup_keys).2 h
  refine perm.eq_of_pairwise (fun j k _ _ hjk hkj => ?_) (List.pairwise_map.2 s.increasing)
    (List.pairwise_map.2 t.increasing)
  exact absurd (Trans.trans hjk hkj) (Std.Irrefl.irrefl j)

/-- Collections with the same members are the same. -/
theorem ext_mem {s t : Sorted key} (h : ∀ x, x ∈ s.toList ↔ x ∈ t.toList) : s = t := by
  have perm : s.toList.Perm t.toList :=
    (List.perm_ext_iff_of_nodup (nodup_toList s) (nodup_toList t)).2 h
  refine ext (perm.eq_of_pairwise (fun x y _ _ hxy hyx => ?_) s.increasing t.increasing)
  exact absurd (Trans.trans hxy hyx) (Std.Irrefl.irrefl (key x))

variable [DecidableLT κ] [Std.Trichotomous (α := κ) (· < ·)] {s t u : Sorted key} {k : κ}

private theorem mem_map_key_union :
    k ∈ (s.union t).toList.map key ↔ k ∈ s.toList.map key ∨ k ∈ t.toList.map key := by
  simp only [List.mem_map, mem_union]
  constructor
  · rintro ⟨x, hx | ⟨hx, -⟩, rfl⟩
    · exact .inl ⟨x, hx, rfl⟩
    · exact .inr ⟨x, hx, rfl⟩
  · rintro (⟨x, hx, rfl⟩ | ⟨x, hx, rfl⟩)
    · exact ⟨x, .inl hx, rfl⟩
    · by_cases new : ∀ y ∈ s.toList, key y ≠ key x
      · exact ⟨x, .inr ⟨hx, new⟩, rfl⟩
      · obtain ⟨y, hy, same⟩ : ∃ y ∈ s.toList, key y = key x := by simpa using new
        exact ⟨y, .inl hy, same⟩

private theorem forall_mem_union_key_ne : (∀ y ∈ (s.union t).toList, key y ≠ k) ↔
    (∀ y ∈ s.toList, key y ≠ k) ∧ ∀ y ∈ t.toList, key y ≠ k := by
  have absent (r : Sorted key) : (∀ y ∈ r.toList, key y ≠ k) ↔ k ∉ r.toList.map key := by simp
  rw [absent, absent, absent, mem_map_key_union, not_or]

theorem union_assoc (s t u : Sorted key) : (s.union t).union u = s.union (t.union u) := by
  refine ext_mem fun x => ?_
  rw [mem_union, forall_mem_union_key_ne, mem_union, mem_union, mem_union, or_and_right, and_assoc,
    and_comm (a := ∀ y ∈ s.toList, key y ≠ key x), or_assoc]

theorem union_self (s : Sorted key) : s.union s = s := by
  refine ext_mem fun x => ?_
  rw [mem_union]
  exact or_iff_left fun ⟨hx, new⟩ => new x hx rfl

theorem empty_union (s : Sorted key) : empty.union s = s := by
  refine ext_mem fun x => ?_
  simp [mem_union, empty]

omit [Std.Irrefl (α := κ) (· < ·)] [Std.Trichotomous (α := κ) (· < ·)] in
theorem union_empty (s : Sorted key) : s.union empty = s := rfl

/-- Both orders of a union have the same keys; where keys meet, the spellings may differ. -/
theorem map_key_union_comm (s t : Sorted key) :
    (s.union t).toList.map key = (t.union s).toList.map key :=
  map_key_eq fun _ => by rw [mem_map_key_union, mem_map_key_union, or_comm]

omit [LT κ] [Trans (α := κ) (· < ·) (· < ·) (· < ·)] [Std.Irrefl (α := κ) (· < ·)]
  [DecidableLT κ] [Std.Trichotomous (α := κ) (· < ·)] in
/-- Where no key is there twice, every element is the first of its key. -/
theorem isFirst_iff_of_nodup {x : α} {xs : List α} (keys : (xs.map key).Nodup) :
    IsFirst key x xs ↔ x ∈ xs := by
  refine ⟨IsFirst.mem, fun hx => ?_⟩
  obtain ⟨before, after, rfl⟩ := List.append_of_mem hx
  rw [List.map_append, List.map_cons, List.nodup_append] at keys
  refine ⟨before, after, rfl, fun y hy => ?_⟩
  exact keys.2.2 _ (List.mem_map_of_mem hy) _ List.mem_cons_self

/-- The order of a list does not matter where no key is there twice. -/
theorem ofList_perm {xs ys : List α} (perm : xs.Perm ys) (keys : (xs.map key).Nodup) :
    (ofList xs : Sorted key) = ofList ys := by
  have keys' : (ys.map key).Nodup := (perm.map key).nodup_iff.1 keys
  refine ext_mem fun x => ?_
  rw [mem_ofList, mem_ofList, isFirst_iff_of_nodup keys, isFirst_iff_of_nodup keys', perm.mem_iff]

/-- A collection is what its own list gives. -/
theorem ofList_toList (s : Sorted key) : ofList s.toList = s := empty_union s

/-- It makes no difference whether a list is put in order before it is inserted. -/
theorem union_ofList (s : Sorted key) (xs : List α) : s.union (ofList xs) = s.insertMany xs := by
  refine ext_mem fun x => ?_
  rw [mem_union, mem_insertMany, mem_ofList]

end AssetWatch.Sorted
