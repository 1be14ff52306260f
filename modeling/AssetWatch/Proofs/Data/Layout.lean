import AssetWatch.Data.Value
import Mathlib.Data.List.Nodup

/-!
# The layout of values

In a document no table has a key twice. Such a value says the same however the entries of its
tables follow one another.
-/

namespace AssetWatch.Data.Value

inductive Keyed : Value → Prop
  | null : Keyed .null
  | boolean (b : Bool) : Keyed (.boolean b)
  | integer (n : Int) : Keyed (.integer n)
  | float (x : Float) : Keyed (.float x)
  | text (s : String) : Keyed (.text s)
  | moment (spelling : String) : Keyed (.moment spelling)
  | list {items : List Value} (all : ∀ v ∈ items, Keyed v) : Keyed (.list items)
  | table {entries : List (String × Value)} (keys : (entries.map Prod.fst).Nodup)
      (all : ∀ e ∈ entries, Keyed e.2) : Keyed (.table entries)
  | tables {items : List (List (String × Value))}
      (all : ∀ entries ∈ items, Keyed (.table entries)) : Keyed (.tables items)

/-- Somewhere in a value the entries of one table change places. -/
inductive Reorders : Value → Value → Prop
  | entries {entries entries' : List (String × Value)} (perm : entries.Perm entries') :
      Reorders (.table entries) (.table entries')
  | inEntry {before after : List (String × Value)} {name : String} {v v' : Value}
      (inside : Reorders v v') :
      Reorders (.table (before ++ (name, v) :: after)) (.table (before ++ (name, v') :: after))
  | inItem {before after : List Value} {v v' : Value} (inside : Reorders v v') :
      Reorders (.list (before ++ v :: after)) (.list (before ++ v' :: after))
  | inTable {before after : List (List (String × Value))} {entries entries' : List (String × Value)}
      (inside : Reorders (.table entries) (.table entries')) :
      Reorders (.tables (before ++ entries :: after)) (.tables (before ++ entries' :: after))

variable {v v' : Value} {entries : List (String × Value)} {items : List Value}

/-! ## Keys -/

theorem keyed_table : (table entries).Keyed ↔
    (entries.map Prod.fst).Nodup ∧ ∀ e ∈ entries, e.2.Keyed := by
  constructor
  · intro h
    cases h with
    | table keys all => exact ⟨keys, all⟩
  · rintro ⟨keys, all⟩
    exact .table keys all

theorem Keyed.of_items? (h : v.Keyed) (same : v.items? = some items) : ∀ a ∈ items, a.Keyed := by
  cases h with
  | list all => cases same; exact all
  | tables all =>
    cases same
    simpa using all
  | _ => cases same

theorem Keyed.of_entries? (h : v.Keyed) (same : v.entries? = some entries) :
    (entries.map Prod.fst).Nodup ∧ ∀ e ∈ entries, e.2.Keyed := by
  cases h with
  | table keys all => cases same; exact ⟨keys, all⟩
  | moment spelling =>
    cases same
    exact ⟨List.nodup_singleton _, by simpa using Keyed.text spelling⟩
  | _ => cases same

/-! ## Reordering -/

theorem Reorders.symm (h : Reorders v v') : Reorders v' v := by
  induction h with
  | entries perm => exact .entries perm.symm
  | inEntry _ ih => exact .inEntry ih
  | inItem _ ih => exact .inItem ih
  | inTable _ ih => exact .inTable ih

/-- The keys of every table stay. -/
theorem Reorders.keyed (h : Reorders v v') : v.Keyed → v'.Keyed := by
  induction h with
  | entries perm =>
    rw [keyed_table, keyed_table]
    rintro ⟨keys, all⟩
    exact ⟨(perm.map Prod.fst).nodup_iff.1 keys, fun e he => all e (perm.mem_iff.2 he)⟩
  | inEntry _ ih =>
    rw [keyed_table, keyed_table, List.forall_mem_append, List.forall_mem_append,
      List.forall_mem_cons, List.forall_mem_cons]
    rintro ⟨keys, before, here, after⟩
    exact ⟨by simpa using keys, before, ih here, after⟩
  | inItem _ ih =>
    intro h
    cases h with
    | list all =>
      rw [List.forall_mem_append, List.forall_mem_cons] at all
      exact .list (List.forall_mem_append.2 ⟨all.1, List.forall_mem_cons.2 ⟨ih all.2.1, all.2.2⟩⟩)
  | inTable _ ih =>
    intro h
    cases h with
    | tables all =>
      rw [List.forall_mem_append, List.forall_mem_cons] at all
      exact .tables (List.forall_mem_append.2 ⟨all.1, List.forall_mem_cons.2 ⟨ih all.2.1, all.2.2⟩⟩)

theorem Reorders.keyed_iff (h : Reorders v v') : v.Keyed ↔ v'.Keyed := ⟨h.keyed, h.symm.keyed⟩

/-- Read as a list, a value keeps its items but for one, which is reordered itself. -/
theorem Reorders.items? (h : Reorders v v') :
    v.items? = none ∧ v'.items? = none ∨
    ∃ before a a' after, v.items? = some (before ++ a :: after) ∧
      v'.items? = some (before ++ a' :: after) ∧ Reorders a a' := by
  cases h with
  | entries | inEntry => exact .inl ⟨rfl, rfl⟩
  | inItem inside => exact .inr ⟨_, _, _, _, rfl, rfl, inside⟩
  | @inTable before after entries entries' inside =>
    have same (entries : List (String × Value)) : (tables (before ++ entries :: after)).items? =
        some (before.map .table ++ .table entries :: after.map .table) := by
      rw [Value.items?, List.map_append, List.map_cons]
    exact .inr ⟨_, _, _, _, same entries, same entries', inside⟩

/-- Read as a table, a value has its entries in another order, or one of them is reordered. -/
theorem Reorders.entries? (h : Reorders v v') :
    v.entries? = none ∧ v'.entries? = none ∨
    (∃ entries entries', v.entries? = some entries ∧ v'.entries? = some entries' ∧
      entries.Perm entries') ∨
    ∃ before name a a' after, v.entries? = some (before ++ (name, a) :: after) ∧
      v'.entries? = some (before ++ (name, a') :: after) ∧ Reorders a a' := by
  cases h with
  | entries perm => exact .inr (.inl ⟨_, _, rfl, rfl, perm⟩)
  | inEntry inside => exact .inr (.inr ⟨_, _, _, _, _, rfl, rfl, inside⟩)
  | inItem | inTable => exact .inl ⟨rfl, rfl⟩

/-- Neither a text nor a table with at most one key. -/
structure IsSeveral (v : Value) : Prop where
  noText : ∀ s, v ≠ .text s
  keys : ∀ entries, v = .table entries → 1 < entries.length

/-- A value stays, or keeps its only key, or has several keys before and after. -/
theorem Reorders.singleton_cases (h : Reorders v v') : v = v' ∨
    (∃ name a a', v = .table [(name, a)] ∧ v' = .table [(name, a')] ∧ Reorders a a') ∨
    v.IsSeveral ∧ v'.IsSeveral := by
  have table_of_lt {entries : List (String × Value)} (several : 1 < entries.length) :
      (table entries).IsSeveral := ⟨nofun, fun _ h => by cases h; exact several⟩
  cases h with
  | @entries es es' perm =>
    have length := perm.length_eq
    match es, es' with
    | [], es' =>
      obtain rfl := perm.nil_eq
      exact .inl rfl
    | [e], es' =>
      obtain rfl := perm.singleton_eq
      exact .inl rfl
    | _ :: _ :: _, es' =>
      exact .inr (.inr ⟨table_of_lt (by simp), table_of_lt (by simp [← length])⟩)
  | @inEntry before after name a a' inside =>
    by_cases alone : before = [] ∧ after = []
    · obtain ⟨rfl, rfl⟩ := alone
      exact .inr (.inl ⟨_, _, _, rfl, rfl, inside⟩)
    · have several (v : Value) : 1 < (before ++ (name, v) :: after).length := by
        rw [← List.length_eq_zero_iff, ← List.length_eq_zero_iff] at alone
        rw [List.length_append, List.length_cons]
        omega
      exact .inr (.inr ⟨table_of_lt (several a), table_of_lt (several a')⟩)
  | inItem | inTable => exact .inr (.inr ⟨⟨nofun, nofun⟩, ⟨nofun, nofun⟩⟩)

end AssetWatch.Data.Value
