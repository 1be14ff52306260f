import AssetWatch.Proofs.Watch.Batches
import AssetWatch.Watch.Debounce

/-!
# What deliveries hold

Whatever the times at which changes arrive, a delivered batch is made of changes of the stream,
so it has no category but those that these changes affect. That stays so however batches are
merged afterwards.
-/

namespace AssetWatch

namespace Batch

/-- Some batches of a list merged into one, in any order and any number of times. -/
inductive MergedFrom (bs : List Batch) : Batch → Prop
  | single {b : Batch} : b ∈ bs → MergedFrom bs b
  | merge {a b : Batch} : MergedFrom bs a → MergedFrom bs b → MergedFrom bs (a.merge b)

theorem MergedFrom.exists_mem {bs : List Batch} {b : Batch} {name : String}
    (h : MergedFrom bs b) (hn : name ∈ b.categories.toList) :
    ∃ a ∈ bs, name ∈ a.categories.toList := by
  induction h with
  | single hb => exact ⟨_, hb, hn⟩
  | merge _ _ left right =>
    rcases mem_categories_merge.1 hn with hn | hn
    · exact left hn
    · exact right hn

end Batch

namespace Debouncer

variable {d : Debouncer} {closesAt now : Nat} {b : Batch} {changes : List Change} {name : String}

def Affected (d : Debouncer) (changes : List Change) (name : String) : Prop :=
  ∃ change ∈ changes, name ∈ (d.matcher.categoriesFor change.path).toList

theorem Affected.mono {fewer more : List Change} (h : d.Affected fewer name) (hs : fewer ⊆ more) :
    d.Affected more name := by
  obtain ⟨change, hc, hn⟩ := h
  exact ⟨change, hs hc, hn⟩

private theorem rest_collect_subset : (d.collect closesAt b now changes).2.2.1 ⊆ changes := by
  induction changes generalizing b now with
  | nil => unfold collect; split <;> simp
  | cons change rest ih =>
    unfold collect
    split
    · exact List.subset_cons_of_subset _ ih
    · exact List.Subset.refl _

private theorem affected_of_collect
    (h : name ∈ (d.collect closesAt b now changes).1.categories.toList) :
    name ∈ b.categories.toList ∨ d.Affected changes name := by
  induction changes generalizing b now with
  | nil =>
    unfold collect at h
    split at h <;> exact .inl h
  | cons change rest ih =>
    unfold collect at h
    split at h
    · rcases ih h with hb | hr
      · rcases Batch.mem_categories_add.1 hb with hb | hc
        · exact .inl hb
        · exact .inr ⟨change, List.mem_cons_self, hc⟩
      · exact .inr (hr.mono (List.subset_cons_self ..))
    · exact .inl h

private theorem affected_of_next? {found : Delivery × List Change}
    (h : d.next? closesAt now changes = some found) :
    found.2 ⊆ changes ∧ ∀ name ∈ found.1.batch.categories.toList, d.Affected changes name := by
  fun_induction d.next? closesAt now changes with
  | case1 => cases h
  | case2 now first rest burst =>
    cases h
    refine ⟨List.subset_cons_of_subset _ rest_collect_subset, fun name hn => ?_⟩
    rcases affected_of_collect hn with hf | hr
    · rcases Batch.mem_categories_add.1 hf with he | hf
      · simp [Sorted.empty] at he
      · exact ⟨first, List.mem_cons_self, hf⟩
    · exact hr.mono (List.subset_cons_self ..)
  | case3 => cases h
  | case4 now first rest burst _ _ ih =>
    obtain ⟨hs, ha⟩ := ih h
    have hrest : burst.2.2.1 ⊆ first :: rest := List.subset_cons_of_subset _ rest_collect_subset
    exact ⟨fun _ hc => hrest (hs hc), fun name hn => (ha name hn).mono hrest⟩

/-- Every category of a delivered batch is affected by a change of the stream. -/
theorem affected_of_mem_deliveries {x : Delivery}
    (hx : x ∈ d.deliveries closesAt now changes) (hn : name ∈ x.batch.categories.toList) :
    d.Affected changes name := by
  fun_induction d.deliveries closesAt now changes with
  | case1 => simp at hx
  | case2 now changes delivery rest h ih =>
    obtain ⟨hrest, affected⟩ := affected_of_next? h
    rcases List.mem_cons.1 hx with rfl | hx
    · exact affected name hn
    · exact (ih hx).mono hrest

end Debouncer

end AssetWatch
