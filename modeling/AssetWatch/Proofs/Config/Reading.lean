import AssetWatch.Proofs.Config.Validity
import AssetWatch.Proofs.Data.Layout
import AssetWatch.Proofs.Order.Unions
import Mathlib.Data.List.Pairwise

/-!
# Reading values in any order

A reader gives the same result however the entries of the tables that it reads follow one another,
or fails in both cases. For a record this is so because each field is set apart from the others; and
an entry without a field, or with the default of its field, leaves the record as it is.
-/

namespace AssetWatch

def SameResult {ε α : Type} (a b : Except ε α) : Prop := a.toOption = b.toOption

section Results

variable {ε α β ι : Type} {a b c : Except ε α}

theorem SameResult.refl (a : Except ε α) : SameResult a a := rfl

theorem SameResult.of_eq (h : a = b) : SameResult a b := congrArg _ h

theorem SameResult.symm (h : SameResult a b) : SameResult b a := Eq.symm h

theorem SameResult.trans (h : SameResult a b) (h' : SameResult b c) :
    SameResult a c := Eq.trans h h'

theorem SameResult.eq_ok_iff (h : SameResult a b) {x : α} : a = .ok x ↔ b = .ok x := by
  cases a <;> cases b <;> simp_all [SameResult, Except.toOption]

theorem SameResult.map (h : SameResult a b) (f : α → β) : SameResult (a.map f) (b.map f) := by
  cases a <;> cases b <;> simp_all [SameResult, Except.toOption, Except.map]

theorem SameResult.bind (h : SameResult a b) (f : α → Except ε β) :
    SameResult (a >>= f) (b >>= f) := by
  cases a <;> cases b <;> simp_all [SameResult, Except.toOption, Bind.bind, Except.bind]

theorem sameResult_bind {f g : α → Except ε β} (h : ∀ x, SameResult (f x) (g x)) :
    SameResult (a >>= f) (a >>= g) := by
  cases a with
  | ok x => exact h x
  | error e => rfl

private theorem toOption_bind (f : α → Except ε β) :
    (a >>= f).toOption = a.toOption.bind fun x => (f x).toOption := by
  cases a <;> rfl

/-! ## Lists -/

private theorem sameResult_mapM {f : ι → Except ε α} {before after : List ι} {i j : ι}
    (h : SameResult (f i) (f j)) :
    SameResult ((before ++ i :: after).mapM f) ((before ++ j :: after).mapM f) := by
  simp only [List.mapM_append, List.mapM_cons]
  exact sameResult_bind fun _ => .bind (.bind h _) _

theorem sameResult_foldlM {f : α → ι → Except ε α} {before after : List ι} {i j : ι}
    (h : ∀ x, SameResult (f x i) (f x j)) (x : α) :
    SameResult ((before ++ i :: after).foldlM f x) ((before ++ j :: after).foldlM f x) := by
  simp only [List.foldlM_append, List.foldlM_cons]
  exact sameResult_bind fun x => .bind (h x) _

/-- A fold fails for good. -/
theorem toOption_foldlM (f : α → ι → Except ε α) (is : List ι) (x : α) :
    (is.foldlM f x).toOption = is.foldl (fun o i => o.bind fun x => (f x i).toOption) (some x) := by
  induction is generalizing x with
  | nil => rfl
  | cons i is ih =>
    rw [List.foldlM_cons, toOption_bind, List.foldl_cons, Option.bind_some]
    cases f x i with
    | ok y => exact ih y
    | error e => exact (List.foldl_fixed' (fun _ => rfl) is).symm

/-- Steps that can be exchanged may come in any order. -/
theorem sameResult_foldlM_perm {f : α → ι → Except ε α} {is js : List ι} (perm : is.Perm js)
    (exchange : ∀ i ∈ is, ∀ j ∈ is, ∀ x, SameResult (f x i >>= (f · j)) (f x j >>= (f · i))) (x : α) :
    SameResult (is.foldlM f x) (js.foldlM f x) := by
  rw [SameResult, toOption_foldlM, toOption_foldlM]
  refine perm.foldl_eq' (fun i hi j hj o => ?_) _
  cases o with
  | none => rfl
  | some x =>
    have same := exchange i hi j hj x
    rwa [SameResult, toOption_bind, toOption_bind] at same

theorem mapM_cons_eq_ok_iff {f : ι → Except ε α} {i : ι} {is : List ι} {xs : List α} :
    (i :: is).mapM f = .ok xs ↔ ∃ y ys, f i = .ok y ∧ is.mapM f = .ok ys ∧ xs = y :: ys := by
  simp only [List.mapM_cons, bind_eq_ok_iff]
  constructor
  · rintro ⟨y, hy, ys, hys, same⟩
    cases same
    exact ⟨y, ys, hy, hys, rfl⟩
  · rintro ⟨y, ys, hy, hys, rfl⟩
    exact ⟨y, hy, ys, hys, rfl⟩

theorem mapM_map_eq_ok {f : ι → Except ε α} {g : α → ι} (h : ∀ x, f (g x) = .ok x) (xs : List α) :
    (xs.map g).mapM f = .ok xs := by
  induction xs with
  | nil => rfl
  | cons x xs ih => exact mapM_cons_eq_ok_iff.2 ⟨x, xs, h x, ih, rfl⟩

private theorem exists_mapM_perm {f : ι → Except ε α} {is js : List ι} (perm : is.Perm js)
    {xs : List α}
    (h : is.mapM f = .ok xs) : ∃ ys, js.mapM f = .ok ys ∧ xs.Perm ys := by
  induction perm generalizing xs with
  | nil => exact ⟨xs, h, .refl xs⟩
  | cons i _ ih =>
    obtain ⟨y, ys, hy, hys, rfl⟩ := mapM_cons_eq_ok_iff.1 h
    obtain ⟨zs, hzs, perm⟩ := ih hys
    exact ⟨y :: zs, mapM_cons_eq_ok_iff.2 ⟨y, zs, hy, hzs, rfl⟩, perm.cons y⟩
  | swap i j is =>
    obtain ⟨y, ys, hy, hys, rfl⟩ := mapM_cons_eq_ok_iff.1 h
    obtain ⟨z, zs, hz, hzs, rfl⟩ := mapM_cons_eq_ok_iff.1 hys
    refine ⟨z :: y :: zs, ?_, .swap z y zs⟩
    exact mapM_cons_eq_ok_iff.2 ⟨z, y :: zs, hz, mapM_cons_eq_ok_iff.2 ⟨y, zs, hy, hzs, rfl⟩, rfl⟩
  | trans _ _ ih ih' =>
    obtain ⟨ys, hys, perm⟩ := ih h
    obtain ⟨zs, hzs, perm'⟩ := ih' hys
    exact ⟨zs, hzs, perm.trans perm'⟩

end Results

/-- What has a name of its own is found by it. -/
theorem find?_of_nodup {α : Type} {name : α → String} {all : List α} (names : (all.map name).Nodup)
    {a : α} (mem : a ∈ all) : all.find? (name · == name a) = some a := by
  cases found : all.find? (name · == name a) with
  | none => exact absurd (beq_self_eq_true (name a)) (List.find?_eq_none.1 found a mem)
  | some b =>
    have same : name b = name a := by simpa using List.find?_some found
    rw [List.inj_on_of_nodup_map names (List.mem_of_find?_eq_some found) mem same]

namespace Schema

open Data (Value)
open Data.Value (Keyed Reorders)

variable {α β δ : Type} {item : Reader α} {v v' : Value}

/-- A reader does not depend on the order of entries. -/
def Respects (item : Reader α) : Prop :=
  ∀ {v v' : Value}, v.Keyed → Reorders v v' → SameResult (item v) (item v')

/-! ## Scalars -/

theorem respects_text : Respects text := fun _ reorders => by cases reorders <;> rfl

theorem respects_boolean : Respects boolean := fun _ reorders => by cases reorders <;> rfl

theorem respects_word (kind : String) : Respects (word kind) :=
  fun _ reorders => by cases reorders <;> rfl

theorem respects_optional (respects : Respects item) : Respects (optional item) :=
  fun keyed reorders => by
    have same := (respects keyed reorders).map some
    cases reorders <;> exact same

/-! ## Lists and maps -/

theorem respects_list (respects : Respects item) : Respects (list item) := by
  intro v v' keyed reorders
  rcases reorders.items? with ⟨none, none'⟩ | ⟨before, a, a', after, some, some', inside⟩
  · simp only [list, none, none']
    rfl
  · have keyed := keyed.of_items? some a (by simp)
    simp only [list, some, some']
    exact sameResult_mapM (respects keyed inside)

def readEntry (item : Reader α) (e : String × Value) : Except Fault (String × α) :=
  (item e.2).map fun a => (e.1, a)

theorem decode_of_entries? {es : List (String × Value)} (some : v.entries? = some es) :
    NameMap.decode item v = (es.mapM (readEntry item)).map Sorted.ofList := by
  simp only [NameMap.decode, entries, some]
  rfl

private theorem map_fst_mapM_readEntry {es : List (String × Value)} {xs : List (String × α)}
    (h : es.mapM (readEntry item) = .ok xs) : xs.map Prod.fst = es.map Prod.fst := by
  induction es generalizing xs with
  | nil => cases h; rfl
  | cons e es ih =>
    obtain ⟨y, ys, hy, hys, rfl⟩ := mapM_cons_eq_ok_iff.1 h
    rw [List.map_cons, List.map_cons, ih hys]
    rw [readEntry] at hy
    cases read : item e.2 with
    | error fault => rw [read] at hy; cases hy
    | ok a => rw [read] at hy; cases hy; rfl

/-- The entries of a map may come in any order, as no key is there twice. -/
theorem sameResult_entries_perm {es es' : List (String × Value)} (perm : es.Perm es')
    (keys : (es.map Prod.fst).Nodup) :
    SameResult ((es.mapM (readEntry item)).map fun xs => (Sorted.ofList xs : NameMap α))
      ((es'.mapM (readEntry item)).map Sorted.ofList) := by
  cases read : es.mapM (readEntry item) with
  | ok xs =>
    obtain ⟨ys, read', perm'⟩ := exists_mapM_perm perm read
    rw [read']
    exact .of_eq (congrArg Except.ok (Sorted.ofList_perm perm' (by rwa [map_fst_mapM_readEntry read])))
  | error fault =>
    cases read' : es'.mapM (readEntry item) with
    | error fault' => rfl
    | ok ys =>
      obtain ⟨xs, read'', -⟩ := exists_mapM_perm perm.symm read'
      cases read.symm.trans read''

theorem respects_map (respects : Respects item) : Respects (NameMap.decode item) := by
  intro v v' keyed reorders
  rcases reorders.entries? with
    ⟨none, none'⟩ | ⟨es, es', some, some', perm⟩ | ⟨before, name, a, a', after, some, some', inside⟩
  · simp only [NameMap.decode, entries, none, none']
    rfl
  · rw [decode_of_entries? some, decode_of_entries? some']
    exact sameResult_entries_perm perm (keyed.of_entries? some).1
  · have keyed := (keyed.of_entries? some).2 (name, a) (by simp)
    have same : SameResult (readEntry item (name, a)) (readEntry item (name, a')) :=
      (respects keyed inside).map _
    rw [decode_of_entries? some, decode_of_entries? some']
    exact (sameResult_mapM same).map _

/-! ## Names -/

private theorem respects_emptyPayload : Respects emptyPayload := by
  intro v v' _ reorders
  cases reorders with
  | @entries es es' perm =>
    cases es with
    | nil => rw [perm.nil_eq]; rfl
    | cons e es =>
      cases es' with
      | nil => cases perm.eq_nil
      | cons e' es' => rfl
  | @inEntry before | @inItem before | @inTable before => cases before <;> rfl

theorem named_of_isSeveral (known : List String) (several : v.IsSeveral) :
    ∃ fault, named known v = .error fault := by
  cases v with
  | text s => exact absurd rfl (several.noText s)
  | table es =>
    match es with
    | [] => exact ⟨_, rfl⟩
    | [_] => exact absurd (several.keys _ rfl) (by simp)
    | _ :: _ :: _ => exact ⟨_, rfl⟩
  | _ => exact ⟨_, rfl⟩

theorem named_singleton {known : List String} {name : String} {a : Value} :
    named known (.table [(name, a)]) =
      if known.contains name then .ok (name, some a) else .error (.unknownName name known) := rfl

theorem respects_oneOf {name : α → String} {all : List α} : Respects (oneOf name all) := by
  intro v v' keyed reorders
  rcases reorders.singleton_cases with rfl | ⟨chosen, a, a', rfl, rfl, inside⟩ | ⟨several, several'⟩
  · rfl
  · have same := respects_emptyPayload ((keyed.of_entries? rfl).2 _ List.mem_cons_self) inside
    simp only [oneOf, named_singleton]
    split
    · exact same.bind _
    · rfl
  · obtain ⟨fault, error⟩ := named_of_isSeveral (all.map name) several
    obtain ⟨fault', error'⟩ := named_of_isSeveral (all.map name) several'
    simp only [oneOf, error, error']
    rfl

/-! ## Records -/

variable {fields : List (FieldReader δ)} {draft : δ}

theorem setEntry_of_some {e : String × Value} {f : FieldReader δ}
    (found : fields.find? (·.name == e.1) = some f) : setEntry fields draft e = f.set draft e.2 := by
  rw [setEntry, found]

private theorem setEntry_of_none {e : String × Value} (none : fields.find? (·.name == e.1) = none) :
    setEntry fields draft e = .ok draft := by
  rw [setEntry, none]

/-- It makes no difference which of two fields is set first. -/
def FieldReader.Independent (f g : FieldReader δ) : Prop :=
  ∀ draft v w, SameResult (f.set draft v >>= (g.set · w)) (g.set draft w >>= (f.set · v))

instance : Std.Symm (FieldReader.Independent (δ := δ)) where
  symm _ _ h := fun draft v w => (h draft w v).symm

theorem independent_field {name name' : String} {item : Reader α} {item' : Reader β}
    {keep : δ → α → δ} {keep' : δ → β → δ}
    (apart : ∀ draft a b, keep' (keep draft a) b = keep (keep' draft b) a) :
    (field name item keep).Independent (field name' item' keep') := by
  intro draft v w
  simp only [field]
  cases item v with
  | error fault => cases item' w <;> rfl
  | ok a =>
    cases item' w with
    | error fault => rfl
    | ok b => exact .of_eq (congrArg Except.ok (apart draft a b))

theorem respects_field {name : String} {keep : δ → α → δ} (respects : Respects item) (draft : δ) :
    Respects ((field name item keep).set draft) :=
  fun keyed reorders => (respects keyed reorders).map _

/-- Fields with names of their own, each set apart from the others, out of values in any order. -/
structure Orderless (fields : List (FieldReader δ)) : Prop where
  names : (fields.map FieldReader.name).Nodup
  independent : fields.Pairwise FieldReader.Independent
  respects : ∀ f ∈ fields, ∀ draft, Respects (f.set draft)

namespace Orderless

theorem find?_name (orderless : Orderless fields) {f : FieldReader δ} (mem : f ∈ fields) :
    fields.find? (·.name == f.name) = some f := find?_of_nodup orderless.names mem

/-- Entries with different keys can be exchanged. -/
theorem setEntry_exchange (orderless : Orderless fields) {e e' : String × Value}
    (differ : e.1 ≠ e'.1) (draft : δ) :
    SameResult (setEntry fields draft e >>= (setEntry fields · e'))
      (setEntry fields draft e' >>= (setEntry fields · e)) := by
  cases found : fields.find? (·.name == e.1) with
  | none =>
    simp only [setEntry_of_none found]
    exact .of_eq (bind_pure (setEntry fields draft e')).symm
  | some f =>
    cases found' : fields.find? (·.name == e'.1) with
    | none =>
      simp only [setEntry_of_none found']
      exact .of_eq (bind_pure (setEntry fields draft e))
    | some g =>
      have name : f.name = e.1 := by simpa using List.find?_some found
      have name' : g.name = e'.1 := by simpa using List.find?_some found'
      have apart : f ≠ g := by
        rintro rfl
        exact differ (name.symm.trans name')
      simp only [setEntry_of_some found, setEntry_of_some found']
      exact orderless.independent.forall (List.mem_of_find?_eq_some found)
        (List.mem_of_find?_eq_some found') apart draft e.2 e'.2

private theorem sameResult_perm (orderless : Orderless fields) {es es' : List (String × Value)}
    (perm : es.Perm es') (keys : (es.map Prod.fst).Nodup) (draft : δ) :
    SameResult (es.foldlM (setEntry fields) draft) (es'.foldlM (setEntry fields) draft) := by
  refine sameResult_foldlM_perm perm (fun e he e' he' draft => ?_) draft
  by_cases same : e.1 = e'.1
  · rw [List.inj_on_of_nodup_map keys he he' same]
    exact .refl _
  · exact orderless.setEntry_exchange same draft

private theorem respects_setEntry (orderless : Orderless fields) (name : String) (draft : δ) :
    Respects fun v => setEntry fields draft (name, v) := by
  intro v v' keyed reorders
  cases found : fields.find? (·.name == name) with
  | none => simp only [setEntry_of_none (e := (name, _)) found]; rfl
  | some f =>
    simp only [setEntry_of_some (e := (name, _)) found]
    exact orderless.respects f (List.mem_of_find?_eq_some found) draft keyed reorders

/-- Of the fields in their order, one is read from a value that is reordered. -/
theorem sameResult_zip (each : ∀ f ∈ fields, ∀ draft, Respects (f.set draft)) {a a' : Value}
    (keyed : a.Keyed) (inside : Reorders a a') (before after : List Value) (draft : δ) :
    SameResult ((fields.zip (before ++ a :: after)).foldlM (fun draft (f, v) => f.set draft v) draft)
      ((fields.zip (before ++ a' :: after)).foldlM (fun draft (f, v) => f.set draft v) draft) := by
  induction fields generalizing before draft with
  | nil => rfl
  | cons f fields ih =>
    obtain ⟨first, rest⟩ := List.forall_mem_cons.1 each
    cases before with
    | nil => exact .bind (first draft keyed inside) _
    | cons b before => exact sameResult_bind fun draft => ih rest before draft

/-- A record does not depend on the order of entries, be it written as a table or as a list. -/
theorem respects_record (orderless : Orderless fields) (name : String) (draft : δ) :
    Respects (record name fields draft) := by
  intro v v' keyed reorders
  rcases reorders.items? with ⟨noItems, noItems'⟩ | ⟨before, a, a', after, items, items', inside⟩
  · rcases reorders.entries? with
      ⟨none, none'⟩ | ⟨es, es', some, some', perm⟩ | ⟨before, key, a, a', after, some, some', inside⟩
    · simp only [record, noItems, noItems', none, none']
      rfl
    · simp only [record, noItems, noItems', some, some']
      exact orderless.sameResult_perm perm (keyed.of_entries? some).1 draft
    · simp only [record, noItems, noItems', some, some']
      have keyed := (keyed.of_entries? some).2 (key, a) (by simp)
      exact sameResult_foldlM (fun draft => orderless.respects_setEntry key draft keyed inside) draft
  · simp only [record, items, items']
    exact sameResult_zip orderless.respects (keyed.of_items? items a (by simp)) inside before after draft

end Orderless

/-! ## Entries that say nothing new -/

/-- An entry that says nothing new in a table without its key: it names no field of the record, or
writes out the default of the field that it names. -/
inductive Idle (fields : List (FieldReader δ)) (defaults : δ) : String × Value → Prop
  | unknown {name : String} {v : Value} (unknown : ∀ f ∈ fields, f.name ≠ name) :
      Idle fields defaults (name, v)
  | default {f : FieldReader δ} {v : Value} (mem : f ∈ fields)
      (same : f.set defaults v = .ok defaults) : Idle fields defaults (f.name, v)

theorem Idle.setEntry (orderless : Orderless fields) {e : String × Value}
    (idle : Idle fields draft e) :
    setEntry fields draft e = .ok draft := by
  cases idle with
  | unknown unknown => exact setEntry_of_none (List.find?_eq_none.2 (by simpa using unknown))
  | default mem same => rw [setEntry_of_some (orderless.find?_name mem), same]

theorem Orderless.idle_iff (orderless : Orderless fields) {e : String × Value} :
    Idle fields draft e ↔ Schema.setEntry fields draft e = .ok draft := by
  refine ⟨Idle.setEntry orderless, fun same => ?_⟩
  cases found : fields.find? (·.name == e.1) with
  | none => exact .unknown (by simpa using found)
  | some f =>
    obtain ⟨name, v⟩ := e
    obtain rfl : f.name = name := by simpa using List.find?_some found
    rw [setEntry_of_some found] at same
    exact .default (List.mem_of_find?_eq_some found) same

/-- What says nothing new makes no difference. -/
theorem Idle.record (orderless : Orderless fields) {e : String × Value} (idle : Idle fields draft e)
    (name : String) (es : List (String × Value)) :
    record name fields draft (.table (e :: es)) = record name fields draft (.table es) := by
  change (e :: es).foldlM (Schema.setEntry fields) draft = es.foldlM (Schema.setEntry fields) draft
  rw [List.foldlM_cons, idle.setEntry orderless]
  rfl

end Schema

end AssetWatch
