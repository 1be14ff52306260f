import AssetWatch.Order.Sorted

/-!
# Members of sorted collections

A collection built from a list has, for each key, the first element of the list with that key.
A set of names has exactly the names that were put into it, each once.
-/

namespace AssetWatch.Sorted

variable {α κ : Type} {key : α → κ}

def IsFirst (key : α → κ) (x : α) (xs : List α) : Prop :=
  ∃ before after, xs = before ++ x :: after ∧ ∀ y ∈ before, key y ≠ key x

private theorem not_isFirst_nil (x : α) : ¬IsFirst key x [] := by
  rintro ⟨before, after, h, -⟩
  simp at h

theorem isFirst_cons {a x : α} {xs : List α} :
    IsFirst key x (a :: xs) ↔ x = a ∨ key a ≠ key x ∧ IsFirst key x xs := by
  constructor
  · rintro ⟨before, after, h, hb⟩
    cases before with
    | nil => exact .inl (List.cons.inj h).1.symm
    | cons b before =>
      obtain ⟨rfl, hxs⟩ := List.cons.inj h
      refine .inr ⟨hb a List.mem_cons_self, before, after, hxs, ?_⟩
      intro y hy
      exact hb y (List.mem_cons_of_mem _ hy)
  · rintro (rfl | ⟨ha, before, after, rfl, hb⟩)
    · exact ⟨[], xs, rfl, by simp⟩
    · exact ⟨a :: before, after, rfl, List.forall_mem_cons.2 ⟨ha, hb⟩⟩

theorem IsFirst.mem {x : α} {xs : List α} (h : IsFirst key x xs) : x ∈ xs := by
  obtain ⟨before, after, rfl, -⟩ := h
  simp

/-- Where keys tell elements apart, every element has a first occurrence. -/
theorem isFirst_id_iff {x : α} {xs : List α} : IsFirst (fun a => a) x xs ↔ x ∈ xs := by
  classical
  constructor
  · exact IsFirst.mem
  · intro hx
    induction xs with
    | nil => simp at hx
    | cons a xs ih =>
      by_cases ha : x = a
      · exact isFirst_cons.2 (.inl ha)
      · have hx : x ∈ xs := (List.mem_cons.1 hx).resolve_left ha
        exact isFirst_cons.2 (.inr ⟨Ne.symm ha, ih hx⟩)

/-- Every element of a list has a first one of its key. -/
theorem exists_isFirst {x : α} {xs : List α} (h : x ∈ xs) :
    ∃ y, IsFirst key y xs ∧ key y = key x := by
  classical
  induction xs with
  | nil => cases h
  | cons a xs ih =>
    by_cases ha : key a = key x
    · exact ⟨a, isFirst_cons.2 (.inl rfl), ha⟩
    · have rest : x ∈ xs := (List.mem_cons.1 h).resolve_left fun same => ha (congrArg key same.symm)
      obtain ⟨y, first, hy⟩ := ih rest
      exact ⟨y, isFirst_cons.2 (.inr ⟨hy ▸ ha, first⟩), hy⟩

variable [LT κ] [DecidableLT κ] [Trans (α := κ) (· < ·) (· < ·) (· < ·)]
  [Std.Irrefl (α := κ) (· < ·)]

omit [DecidableLT κ] [Trans (α := κ) (· < ·) (· < ·) (· < ·)] in
theorem key_ne_of_lt {a b : α} (h : key a < key b) : key a ≠ key b := by
  intro he
  rw [he] at h
  exact Std.Irrefl.irrefl _ h

omit [DecidableLT κ] [Trans (α := κ) (· < ·) (· < ·) (· < ·)] in
/-- No element is twice in a collection. -/
theorem nodup_toList (s : Sorted key) : s.toList.Nodup :=
  s.increasing.imp fun h he => key_ne_of_lt h (congrArg key he)

variable [Std.Trichotomous (α := κ) (· < ·)]

theorem mem_place_iff {a x : α} {xs : List α} (h : xs.Pairwise (fun x y => key x < key y)) :
    x ∈ place key a xs ↔ x ∈ xs ∨ x = a ∧ ∀ y ∈ xs, key y ≠ key a := by
  induction xs with
  | nil => simp [place]
  | cons b rest ih =>
    obtain ⟨hb, hrest⟩ := List.pairwise_cons.1 h
    unfold place
    split
    · rename_i hab
      have hne : ∀ y ∈ b :: rest, key y ≠ key a := by
        intro y hy
        rcases List.mem_cons.1 hy with rfl | hy
        · exact (key_ne_of_lt hab).symm
        · exact (key_ne_of_lt (Trans.trans hab (hb y hy))).symm
      rw [List.mem_cons, or_comm]
      simp only [and_iff_left hne]
    · split
      · rename_i hba
        simp only [List.mem_cons, ih hrest, forall_eq_or_imp, key_ne_of_lt hba, ne_eq,
          not_false_eq_true, true_and, or_assoc]
      · rename_i hab hba
        have he : key a = key b := Std.Trichotomous.trichotomous _ _ hab hba
        simp [he]

/-- An element is added unless its key is there. -/
theorem mem_insert {a x : α} {s : Sorted key} :
    x ∈ (s.insert a).toList ↔ x ∈ s.toList ∨ x = a ∧ ∀ y ∈ s.toList, key y ≠ key a :=
  mem_place_iff s.increasing

theorem mem_insertMany {x : α} {xs : List α} {s : Sorted key} :
    x ∈ (s.insertMany xs).toList ↔
      x ∈ s.toList ∨ IsFirst key x xs ∧ ∀ y ∈ s.toList, key y ≠ key x := by
  induction xs generalizing s with
  | nil => simp [insertMany, not_isFirst_nil]
  | cons a xs ih =>
    change x ∈ ((s.insert a).insertMany xs).toList ↔ _
    rw [ih, mem_insert, isFirst_cons]
    constructor
    · rintro ((hx | ⟨rfl, ha⟩) | ⟨hx, hs⟩)
      · exact .inl hx
      · exact .inr ⟨.inl rfl, ha⟩
      · have hs' : ∀ y ∈ s.toList, key y ≠ key x := fun y hy => hs y (mem_insert.2 (.inl hy))
        by_cases ha : ∀ y ∈ s.toList, key y ≠ key a
        · have hax : key a ≠ key x := hs a (mem_insert.2 (.inr ⟨rfl, ha⟩))
          exact .inr ⟨.inr ⟨hax, hx⟩, hs'⟩
        · obtain ⟨y, hy, hya⟩ : ∃ y ∈ s.toList, key y = key a := by simpa using ha
          exact .inr ⟨.inr ⟨hya ▸ hs' y hy, hx⟩, hs'⟩
    · rintro (hx | ⟨rfl | ⟨hax, hx⟩, hs⟩)
      · exact .inl (.inl hx)
      · exact .inl (.inr ⟨rfl, hs⟩)
      · refine .inr ⟨hx, ?_⟩
        intro y hy
        rcases mem_insert.1 hy with hy | ⟨rfl, -⟩
        · exact hs y hy
        · exact hax

/-- A collection built from a list has the first element of each key. -/
theorem mem_ofList {x : α} {xs : List α} :
    x ∈ (ofList xs : Sorted key).toList ↔ IsFirst key x xs := by
  rw [ofList, mem_insertMany]
  simp [empty]

theorem mem_union {x : α} {s t : Sorted key} :
    x ∈ (s.union t).toList ↔
      x ∈ s.toList ∨ x ∈ t.toList ∧ ∀ y ∈ s.toList, key y ≠ key x := by
  rw [union, mem_insertMany]
  constructor
  · rintro (hx | ⟨hx, hs⟩)
    · exact .inl hx
    · exact .inr ⟨hx.mem, hs⟩
  · rintro (hx | ⟨hx, hs⟩)
    · exact .inl hx
    · obtain ⟨before, after, ht⟩ := List.append_of_mem hx
      have hinc := t.increasing
      rw [ht, List.pairwise_append] at hinc
      refine .inr ⟨⟨before, after, ht, ?_⟩, hs⟩
      intro y hy
      exact key_ne_of_lt (hinc.2.2 y hy x List.mem_cons_self)

end AssetWatch.Sorted

namespace AssetWatch.NameSet

theorem mem_ofList {x : String} {xs : List String} :
    x ∈ (Sorted.ofList xs : NameSet).toList ↔ x ∈ xs :=
  Sorted.mem_ofList.trans Sorted.isFirst_id_iff

theorem mem_union {x : String} {s t : NameSet} :
    x ∈ (s.union t).toList ↔ x ∈ s.toList ∨ x ∈ t.toList := by
  rw [Sorted.mem_union]
  constructor
  · exact Or.imp_right And.left
  · intro h
    by_cases hs : x ∈ s.toList
    · exact .inl hs
    · refine .inr ⟨h.resolve_left hs, ?_⟩
      rintro y hy rfl
      exact hs hy

end AssetWatch.NameSet
