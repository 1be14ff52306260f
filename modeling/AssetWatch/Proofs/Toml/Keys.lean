import AssetWatch.Proofs.Data.Layout
import AssetWatch.Toml.Document

/-!
# Documents have no key twice

A key is added to a table only if it is not there yet, and what a key has is replaced in its place.
So no table of a parsed document has a key twice, at whatever depth.
-/

namespace AssetWatch.Toml

open Data (Value)

/-- Entries with keys of their own, each with something of one kind. -/
structure Table {α : Type} (kind : α → Prop) (entries : List (String × α)) : Prop where
  keys : (entries.map Prod.fst).Nodup
  all : ∀ e ∈ entries, kind e.2

namespace Table

variable {α : Type} {kind : α → Prop} {entries : List (String × α)} {name : String} {a : α}

theorem nil : Table kind [] := ⟨List.nodup_nil, nofun⟩

private theorem of_lookup (h : Table kind entries) (found : entries.lookup name = some a) :
    kind a := by
  obtain ⟨front, back, rfl, -⟩ := List.lookup_eq_some_iff.1 found
  exact h.all (name, a) (by simp)

private theorem concat (h : Table kind entries) (new : entries.lookup name = none) (ha : kind a) :
    Table kind (entries ++ [(name, a)]) where
  keys := by
    have apart : name ∉ entries.map Prod.fst := by
      intro mem
      obtain ⟨e, he, rfl⟩ := List.mem_map.1 mem
      exact absurd (List.lookup_eq_none_iff.1 new e he) (by simp)
    rw [List.map_append]
    exact List.nodup_append_comm.1 (List.nodup_cons.2 ⟨apart, h.keys⟩)
  all := List.forall_mem_append.2 ⟨h.all, by simpa using ha⟩

theorem replace (h : Table kind entries) (ha : kind a) :
    Table kind (entries.map fun e => if e.1 = name then (name, a) else e) where
  keys := by
    have same : (entries.map fun e => if e.1 = name then (name, a) else e).map Prod.fst =
        entries.map Prod.fst := by
      rw [List.map_map]
      refine List.map_congr_left fun e _ => ?_
      rw [Function.comp_apply]
      split
      · rename_i here
        exact here.symm
      · rfl
    rw [same]
    exact h.keys
  all := by
    refine List.forall_mem_map.2 fun e he => ?_
    split
    · exact ha
    · exact h.all e he

theorem filter (h : Table kind entries) (p : String × α → Bool) :
    Table kind (entries.filter p) where
  keys := h.keys.sublist (List.filter_sublist.map _)
  all e he := h.all e (List.mem_of_mem_filter he)

theorem keyed_map_iff {toValue : α → Value} :
    (Value.table (entries.map fun e => (e.1, toValue e.2))).Keyed ↔
      Table (fun a => (toValue a).Keyed) entries := by
  rw [Value.keyed_table, List.map_map, List.forall_mem_map]
  exact ⟨fun h => ⟨h.1, h.2⟩, fun h => ⟨h.1, h.2⟩⟩

end Table

/-! ## Values -/

namespace Inline

def Keyed (i : Inline) : Prop := i.toValue.Keyed

private theorem toEntries_eq_map (entries : Entries) :
    toEntries entries = entries.map fun e => (e.1, toValue e.2) := by
  induction entries with
  | nil => rfl
  | cons e entries ih => rw [toEntries, ih]; rfl

private theorem keyed_dotted {entries : Entries} :
    (dotted entries).Keyed ↔ Table Keyed entries := by
  rw [Keyed, toValue, toEntries_eq_map]
  exact Table.keyed_map_iff

private theorem table_insert {path : List String} {v : Value} {entries entries' : Entries}
    (added : insert path v entries = some entries') (hv : v.Keyed) (table : Table Keyed entries) :
    Table Keyed entries' := by
  fun_induction insert path v entries generalizing entries' with
  | case1 => cases added
  | case2 => cases added
  | case3 v entries name new =>
    cases added
    exact table.concat (Option.not_isSome_iff_eq_none.1 new) hv
  | case4 v entries name path several new ih =>
    obtain ⟨inner, inserted, rfl⟩ := Option.map_eq_some_iff.1 added
    exact table.concat new (keyed_dotted.2 (ih inserted hv .nil))
  | case5 => cases added
  | case6 v entries name path several inner found ih =>
    obtain ⟨inner', inserted, rfl⟩ := Option.map_eq_some_iff.1 added
    exact table.replace (keyed_dotted.2 (ih inserted hv (keyed_dotted.1 (table.of_lookup found))))

end Inline

def ReadsKeyed (item : Reader Value) : Prop := ∀ {s v rest}, item s = some (v, rest) → v.Keyed

variable {item : Reader Value}

private theorem keyed_arrayItems (reads : ReadsKeyed item) {fuel : Nat} {s rest : List Char}
    {items : List Value} (read : arrayItems item fuel s = some (items, rest)) :
    ∀ v ∈ items, v.Keyed := by
  induction fuel generalizing s items rest with
  | zero => cases read
  | succ fuel ih =>
    rw [arrayItems] at read
    split at read
    · cases read
      exact nofun
    · obtain ⟨⟨v, left⟩, here, read⟩ := Option.bind_eq_some_iff.1 read
      dsimp only at read
      split at read
      · obtain ⟨⟨vs, left'⟩, inner, same⟩ := Option.map_eq_some_iff.1 read
        cases same
        exact List.forall_mem_cons.2 ⟨reads here, ih inner⟩
      · cases read
        simpa using reads here
      · cases read

private theorem table_inlineEntries (reads : ReadsKeyed item) {fuel : Nat} {s rest : List Char}
    {entries entries' : Inline.Entries} (table : Table Inline.Keyed entries)
    (read : inlineEntries item fuel entries s = some (entries', rest)) :
    Table Inline.Keyed entries' := by
  induction fuel generalizing s entries rest with
  | zero => cases read
  | succ fuel ih =>
    simp only [inlineEntries, Option.bind_eq_bind, Option.bind_eq_some_iff] at read
    obtain ⟨⟨path, _⟩, -, _, -, ⟨v, _⟩, here, more, added, read⟩ := read
    have table := Inline.table_insert added (reads here) table
    split at read
    · exact ih table read
    · cases read
      exact table
    · cases read

private theorem keyed_scalar : ReadsKeyed scalar := by
  intro s v rest read
  have wraps {α : Type} {wrap : α → Value} {r : Reader α} (keyed : ∀ a, (wrap a).Keyed)
      (h : (r s).map (fun p => (wrap p.1, p.2)) = some (v, rest)) : v.Keyed := by
    obtain ⟨⟨a, _⟩, -, same⟩ := Option.map_eq_some_iff.1 h
    cases same
    exact keyed a
  unfold scalar at read
  split at read
  · exact wraps .text read
  · exact wraps .text read
  · cases read
    exact .boolean true
  · cases read
    exact .boolean false
  · simp only [Option.orElse_eq_or, Option.or_eq_some_iff] at read
    rcases read with read | ⟨-, read | ⟨-, read⟩⟩
    · exact wraps .moment read
    · exact wraps .float read
    · exact wraps .integer read

private theorem keyed_value (depth : Nat) : ReadsKeyed (value depth) := by
  induction depth with
  | zero =>
    intro s v rest read
    unfold value at read
    split at read
    · cases read
    · cases read
    · exact keyed_scalar read
  | succ depth ih =>
    intro s v rest read
    unfold value at read
    split at read
    · obtain ⟨⟨items, _⟩, inner, same⟩ := Option.map_eq_some_iff.1 read
      cases same
      exact .list (keyed_arrayItems ih inner)
    · dsimp only at read
      split at read
      · cases read
        exact .table List.nodup_nil nofun
      · obtain ⟨⟨entries, _⟩, inner, same⟩ := Option.map_eq_some_iff.1 read
        cases same
        exact Inline.keyed_dotted.2 (table_inlineEntries ih .nil inner)
    · exact keyed_scalar read

/-! ## Statements -/

def Statement.Keyed (statement : Statement) : Prop :=
  ∀ key v, statement = .entry key v → v.Keyed

private theorem Statement.keyed_read {s rest : List Char} {statement : Statement}
    (read : Statement.read s = some (statement, rest)) : statement.Keyed := by
  rintro key v rfl
  unfold Statement.read at read
  split at read <;> simp only [Option.bind_eq_bind, Option.bind_eq_some_iff] at read
  · obtain ⟨_, -, read⟩ := read
    simp at read
  · obtain ⟨_, -, read⟩ := read
    simp at read
  · obtain ⟨_, -, _, -, ⟨v', _⟩, here, same⟩ := read
    cases same
    exact keyed_value _ here

private theorem Statement.keyed_readAll {fuel : Nat} {s : List Char} {statements : List Statement}
    (read : Statement.readAll fuel s = some statements) : ∀ st ∈ statements, st.Keyed := by
  induction fuel generalizing s statements with
  | zero => cases read
  | succ fuel ih =>
    rw [Statement.readAll] at read
    split at read
    · cases read
      exact nofun
    · split at read
      · exact ih read
      · simp only [Option.bind_eq_bind, Option.bind_eq_some_iff] at read
        obtain ⟨⟨statement, _⟩, here, _, -, rest, others, same⟩ := read
        cases same
        exact List.forall_mem_cons.2 ⟨Statement.keyed_read here, ih others⟩

/-! ## Documents -/

namespace Node

def Keyed (n : Node) : Prop := n.toValue.Keyed

private theorem toEntries_eq_map (entries : Entries) :
    toEntries entries = entries.map fun e => (e.1, toValue e.2) := by
  induction entries with
  | nil => rfl
  | cons e entries ih => rw [toEntries, ih]; rfl

private theorem toItems_eq (items : List Entries) (after : List (List (String × Value))) :
    toItems items after = (items.map toEntries).reverse ++ after := by
  induction items generalizing after with
  | nil => rfl
  | cons entries items ih => rw [toItems, ih, List.map_cons, List.reverse_cons, List.append_assoc]; rfl

private theorem keyed_toEntries {entries : Entries} :
    (Value.table (toEntries entries)).Keyed ↔ Table Keyed entries := by
  rw [toEntries_eq_map]
  exact Table.keyed_map_iff

theorem keyed_table {origin : Origin} {entries : Entries} :
    (table origin entries).Keyed ↔ Table Keyed entries := keyed_toEntries

private theorem keyed_tables {last : Entries} {before : List Entries} :
    (tables last before).Keyed ↔ Table Keyed last ∧ ∀ entries ∈ before, Table Keyed entries := by
  rw [Keyed, toValue, toItems_eq]
  constructor
  · intro h
    cases h with
    | tables all =>
      exact ⟨keyed_toEntries.1 (all _ (by simp)),
        fun entries he => keyed_toEntries.1 (all _ (by simpa using .inl ⟨entries, he, rfl⟩))⟩
  · rintro ⟨here, others⟩
    refine .tables (List.forall_mem_append.2 ⟨fun items hi => ?_, by simpa using keyed_toEntries.2 here⟩)
    obtain ⟨entries, he, rfl⟩ := List.mem_map.1 (List.mem_reverse.1 hi)
    exact keyed_toEntries.2 (others entries he)

/-- A change of one table that keeps keys apart does so wherever the path leads; and what it gives
besides is as the change has it. -/
theorem table_changeAt {β : Type} (gives : β → Prop) {dotted : Bool}
    {change : Origin → Entries → Option (β × Entries)}
    (changes : ∀ {origin entries b entries'}, change origin entries = some (b, entries') →
      Table Keyed entries → gives b ∧ Table Keyed entries')
    {path : List String} {origin : Origin} {entries entries' : Entries} {b : β}
    (changed : changeAt dotted change path origin entries = some (b, entries'))
    (keyed : Table Keyed entries) : gives b ∧ Table Keyed entries' := by
  induction path generalizing origin entries entries' with
  | nil => exact changes changed keyed
  | cons name path ih =>
    rw [changeAt] at changed
    split at changed
    · rename_i new
      obtain ⟨⟨b', inner⟩, inside, same⟩ := Option.bind_eq_some_iff.1 changed
      cases same
      obtain ⟨given, inner⟩ := ih inside .nil
      exact ⟨given, keyed.concat new (keyed_table.2 inner)⟩
    · cases changed
    · rename_i found
      split at changed
      · cases changed
      · obtain ⟨⟨b', inner⟩, inside, same⟩ := Option.bind_eq_some_iff.1 changed
        cases same
        obtain ⟨given, inner⟩ := ih inside (keyed_table.1 (keyed.of_lookup found))
        exact ⟨given, keyed.replace (keyed_table.2 inner)⟩
    · rename_i found
      obtain ⟨⟨b', last⟩, inside, same⟩ := Option.bind_eq_some_iff.1 changed
      cases same
      obtain ⟨last', before⟩ := keyed_tables.1 (keyed.of_lookup found)
      obtain ⟨given, last⟩ := ih inside last'
      exact ⟨given, keyed.replace (keyed_tables.2 ⟨last, before⟩)⟩

end Node

namespace Draft

open Node (Keyed)

variable {d d' : Draft} {name : String} {entries entries' root : Node.Entries}

structure IsKeyed (d : Draft) : Prop where
  root : Table Keyed d.root
  entries : Table Keyed d.entries

theorem IsKeyed.close (h : d.IsKeyed) (closed : d.close = some root) : Table Keyed root := by
  rw [Draft.close] at closed
  split at closed
  · cases closed
    exact h.entries
  · obtain ⟨⟨_, _⟩, changed, same⟩ := Option.bind_eq_some_iff.1 closed
    cases same
    refine (Node.table_changeAt (fun _ => True) (fun {_ entries _ _} change keyed => ?_)
      changed h.root).2
    split at change
    · cases change
    · rename_i new
      cases change
      have new := Option.not_isSome_iff_eq_none.1 new
      exact ⟨trivial, keyed.concat new (Node.keyed_table.2 h.entries)⟩
  · obtain ⟨⟨_, _⟩, changed, same⟩ := Option.bind_eq_some_iff.1 closed
    cases same
    refine (Node.table_changeAt (fun _ => True) (fun {_ entries _ _} change keyed => ?_)
      changed h.root).2
    split at change
    · rename_i new
      cases change
      exact ⟨trivial, keyed.concat new (Node.keyed_tables.2 ⟨h.entries, nofun⟩)⟩
    · rename_i found
      cases change
      obtain ⟨last, before⟩ := Node.keyed_tables.1 (keyed.of_lookup found)
      exact ⟨trivial, keyed.replace
        (Node.keyed_tables.2 ⟨h.entries, List.forall_mem_cons.2 ⟨last, before⟩⟩)⟩
    · cases change

private theorem table_takeImplied {inner : Node.Entries}
    (taken : takeImplied name entries = some (inner, entries')) (keyed : Table Keyed entries) :
    Table Keyed inner ∧ Table Keyed entries' := by
  rw [takeImplied] at taken
  split at taken
  · cases taken
    exact ⟨.nil, keyed⟩
  · rename_i found
    cases taken
    exact ⟨Node.keyed_table.1 (keyed.of_lookup found), keyed.filter _⟩
  · cases taken

private theorem table_checkItem (checked : checkItem name entries = some ((), entries'))
    (keyed : Table Keyed entries) : Table Keyed entries' := by
  rw [checkItem] at checked
  split at checked <;> cases checked <;> exact keyed

private theorem table_addEntry {path : List String} {v : Value} (hv : v.Keyed)
    (added : addEntry path name v entries = some entries') (keyed : Table Keyed entries) :
    Table Keyed entries' := by
  obtain ⟨⟨_, _⟩, changed, same⟩ := Option.bind_eq_some_iff.1 added
  cases same
  refine (Node.table_changeAt (fun _ => True) (fun {_ entries _ _} change keyed => ?_)
    changed keyed).2
  split at change
  · cases change
  · rename_i free
    cases change
    rw [Bool.or_eq_true, not_or] at free
    exact ⟨trivial, keyed.concat (Option.not_isSome_iff_eq_none.1 free.2) hv⟩

theorem IsKeyed.add (h : d.IsKeyed) {statement : Statement} (hs : statement.Keyed)
    (added : d.add statement = some d') : d'.IsKeyed := by
  cases statement with
  | entry key v =>
    simp only [Draft.add, Option.bind_eq_bind, Option.bind_eq_some_iff] at added
    obtain ⟨name, -, entries, here, same⟩ := added
    cases same
    exact ⟨h.root, table_addEntry (hs key v rfl) here h.entries⟩
  | header key =>
    simp only [Draft.add, Option.bind_eq_bind, Option.bind_eq_some_iff] at added
    obtain ⟨name, -, root, closed, ⟨inner, root'⟩, taken, same⟩ := added
    cases same
    obtain ⟨inner, root⟩ := Node.table_changeAt (Table Keyed) table_takeImplied taken
      (h.close closed)
    exact ⟨root, inner⟩
  | arrayHeader key =>
    simp only [Draft.add, Option.bind_eq_bind, Option.bind_eq_some_iff] at added
    obtain ⟨name, -, root, closed, ⟨_, root'⟩, checked, same⟩ := added
    cases same
    have root := Node.table_changeAt (fun _ => True)
      (fun check keyed => ⟨trivial, table_checkItem check keyed⟩) checked (h.close closed)
    exact ⟨root.2, .nil⟩

theorem IsKeyed.foldlM (h : d.IsKeyed) {statements : List Statement}
    (all : ∀ st ∈ statements, st.Keyed) (added : statements.foldlM Draft.add d = some d') :
    d'.IsKeyed := by
  induction statements generalizing d with
  | nil =>
    cases added
    exact h
  | cons statement statements ih =>
    rw [List.foldlM_cons] at added
    obtain ⟨d₁, here, rest⟩ := Option.bind_eq_some_iff.1 added
    obtain ⟨first, others⟩ := List.forall_mem_cons.1 all
    exact ih (h.add first here) others rest

end Draft

/-- No table of a parsed document has a key twice. -/
theorem keyed_of_parse {content : String} {document : Value}
    (parsed : parse content = some document) : document.Keyed := by
  simp only [parse, Option.bind_eq_bind, Option.bind_eq_some_iff] at parsed
  obtain ⟨_, read, draft, added, root, closed, same⟩ := parsed
  cases same
  have start : ({} : Draft).IsKeyed := ⟨.nil, .nil⟩
  have filled := start.foldlM (Statement.keyed_readAll read) added
  exact Node.keyed_toEntries.2 (filled.close closed)

end AssetWatch.Toml
