import AssetWatch.Proofs.Order.Unions
import AssetWatch.Proofs.Targets.Roots
import AssetWatch.Proofs.Watch.Bursts
import AssetWatch.Proofs.Watch.Deliveries
import AssetWatch.Session.Loop

/-!
# However changes are grouped

Batches under merging are what the lists of their changes are under putting them one behind the
other. So all batches of a stream merged are the batch of all its changes, whatever the times, the
quiet period and the changes that affect nothing, and a batch that was merged from others still has
the categories of its paths, and no paths for nothing.
-/

namespace AssetWatch

namespace Matcher

variable {m : Matcher} {path path' : Path}

/-- Spellings of one path affect the same categories. -/
theorem categoriesFor_congr (h : path.key = path'.key) :
    m.categoriesFor path = m.categoriesFor path' := by
  have under : path.startsWith = path'.startsWith := by
    funext folder
    rw [Path.startsWith, Path.key_eq_iff.1 h, Path.startsWith]
  rw [categoriesFor, under, categoriesFor]

end Matcher

namespace Batch

variable {m : Matcher} {a b c : Batch} {xs ys : List Path}

private theorem ext_parts (categories : a.categories = b.categories) (paths : a.paths = b.paths) :
    a = b := by
  cases a
  cases b
  cases categories
  cases paths
  rfl

/-! ## Merging -/

theorem merge_assoc (a b c : Batch) : (a.merge b).merge c = a.merge (b.merge c) :=
  ext_parts (Sorted.union_assoc ..) (Sorted.union_assoc ..)

theorem merge_self (a : Batch) : a.merge a = a :=
  ext_parts (Sorted.union_self _) (Sorted.union_self _)

private theorem empty_merge (a : Batch) : merge {} a = a :=
  ext_parts (Sorted.empty_union _) (Sorted.empty_union _)

private theorem merge_empty (a : Batch) : a.merge {} = a :=
  ext_parts (Sorted.union_empty _) (Sorted.union_empty _)

/-- The batches agree, but perhaps for the spellings of their paths. -/
structure SameAs (a b : Batch) : Prop where
  categories : a.categories = b.categories
  paths : List.Forall₂ (fun p q => p.sameAs q = true) a.paths.toList b.paths.toList

theorem merge_comm (a b : Batch) : (a.merge b).SameAs (b.merge a) where
  categories := Sorted.ext_mem fun _ => by
    rw [mem_categories_merge, mem_categories_merge, or_comm]
  paths := by
    have keys : (a.merge b).paths.toList.map Path.key = (b.merge a).paths.toList.map Path.key :=
      Sorted.map_key_union_comm ..
    rw [← List.forall₂_eq_eq_eq, List.forall₂_map_left_iff, List.forall₂_map_right_iff] at keys
    exact keys.imp fun p q h => Path.sameAs_iff.2 (Path.key_eq_iff.1 h)

def mergeAll (bs : List Batch) : Batch := bs.foldl merge {}

private theorem foldl_merge (first : Batch) (rest : List Batch) :
    rest.foldl merge first = first.merge (mergeAll rest) := by
  induction rest generalizing first with
  | nil => exact (merge_empty first).symm
  | cons b rest ih => rw [mergeAll, List.foldl_cons, List.foldl_cons, ih, ih, empty_merge, merge_assoc]

private theorem mergeAll_cons (first : Batch) (rest : List Batch) :
    mergeAll (first :: rest) = first.merge (mergeAll rest) := by
  rw [mergeAll, List.foldl_cons, empty_merge, foldl_merge]

/-- What the loop makes of its queue is all of it merged. -/
theorem drain_eq_mergeAll (first : Batch) (rest : List Batch) :
    WatchLoop.drain first rest = mergeAll (first :: rest) := by
  rw [WatchLoop.drain, foldl_merge, mergeAll_cons]

/-! ## The batch of a list of changes -/

private theorem foldl_add_filter (b : Batch) (xs : List Path) :
    (xs.filter m.affects).foldl (add m) b = xs.foldl (add m) b := by
  induction xs generalizing b with
  | nil => rfl
  | cons path xs ih =>
    cases h : m.affects path with
    | true => rw [List.filter_cons_of_pos h, List.foldl_cons, List.foldl_cons, ih]
    | false =>
      rw [List.filter_cons_of_neg (by simp [h]), List.foldl_cons, add_of_not_affects h, ih]

/-- Changes that affect no category leave no trace. -/
theorem ofPaths_filter (m : Matcher) (xs : List Path) :
    ofPaths m (xs.filter m.affects) = ofPaths m xs :=
  foldl_add_filter {} xs

private theorem foldl_add_eq_merge (b : Batch) (xs : List Path) :
    xs.foldl (add m) b = b.merge (ofPaths m xs) := by
  refine ext_parts (Sorted.ext_mem fun name => ?_) ?_
  · rw [mem_categories_foldl_add, mem_categories_merge, mem_categories_ofPaths]
  · rw [paths_foldl_add, merge, ofPaths, paths_foldl_add]
    exact (Sorted.union_ofList ..).symm

/-- The batch of a list is merged from those of its parts. -/
theorem ofPaths_append (m : Matcher) (xs ys : List Path) :
    ofPaths m (xs ++ ys) = (ofPaths m xs).merge (ofPaths m ys) := by
  rw [ofPaths, List.foldl_append, foldl_add_eq_merge]
  rfl

private theorem ofPaths_eq_empty (h : (ofPaths m xs).isEmpty = true) : ofPaths m xs = {} := by
  have nothing : xs.filter m.affects = [] :=
    List.filter_eq_nil_iff.2 fun path hp => by simp [isEmpty_ofPaths.1 h path hp]
  rw [← ofPaths_filter, nothing]
  rfl

/-- However a list is cut, the batches of the parts that affect some category merge to that of the
list. -/
theorem mergeAll_ofPaths (m : Matcher) (groups : List (List Path)) :
    mergeAll ((groups.map (ofPaths m)).filter (!·.isEmpty)) = ofPaths m groups.flatten := by
  induction groups with
  | nil => rfl
  | cons xs groups ih =>
    rw [List.map_cons, List.flatten_cons, ofPaths_append, ← ih]
    cases h : (ofPaths m xs).isEmpty with
    | true => rw [List.filter_cons_of_neg (by simp [h]), ofPaths_eq_empty h, empty_merge]
    | false => rw [List.filter_cons_of_pos (by simp [h]), mergeAll_cons]

/-! ## Categories and paths stay in step -/

/-- A batch has the categories that its paths affect, and no paths for nothing. -/
structure InStep (m : Matcher) (b : Batch) : Prop where
  categories : ∀ name, name ∈ b.categories.toList ↔
    ∃ path ∈ b.paths.toList, name ∈ (m.categoriesFor path).toList
  empty : b.isEmpty = true ↔ b.paths.isEmpty = true

private theorem inStep_ofPaths (m : Matcher) (xs : List Path) : (ofPaths m xs).InStep m where
  categories name := by
    rw [mem_categories_ofPaths]
    constructor
    · rintro ⟨path, hp, hn⟩
      have among : path ∈ xs.filter m.affects :=
        List.mem_filter.2 ⟨hp, Matcher.affects_iff.2 ⟨name, hn⟩⟩
      obtain ⟨first, isFirst, same⟩ : ∃ first,
          Sorted.IsFirst Path.key first (xs.filter m.affects) ∧ first.key = path.key :=
        Sorted.exists_isFirst among
      exact ⟨first, mem_paths_ofPaths.2 isFirst, Matcher.categoriesFor_congr same ▸ hn⟩
    · rintro ⟨path, hp, hn⟩
      exact ⟨path, (List.mem_filter.1 (mem_paths_ofPaths.1 hp).mem).1, hn⟩
  empty := by
    rw [isEmpty_ofPaths, Sorted.isEmpty, List.isEmpty_iff, List.eq_nil_iff_forall_not_mem]
    constructor
    · intro none path hp
      obtain ⟨among, affects⟩ := List.mem_filter.1 (mem_paths_ofPaths.1 hp).mem
      rw [none path among] at affects
      cases affects
    · intro none path hp
      by_contra affects
      have among : path ∈ xs.filter m.affects :=
        List.mem_filter.2 ⟨hp, by simpa using affects⟩
      obtain ⟨first, isFirst, -⟩ : ∃ first,
          Sorted.IsFirst Path.key first (xs.filter m.affects) ∧ first.key = path.key :=
        Sorted.exists_isFirst among
      exact none first (mem_paths_ofPaths.2 isFirst)

/-- What is merged from batches of changes is the batch of changes. -/
theorem MergedFrom.exists_paths {bs : List Batch} (h : MergedFrom bs b)
    (each : ∀ b ∈ bs, ∃ xs, b = ofPaths m xs) : ∃ xs, b = ofPaths m xs := by
  induction h with
  | single hb => exact each _ hb
  | merge _ _ left right =>
    obtain ⟨xs, rfl⟩ := left
    obtain ⟨ys, rfl⟩ := right
    exact ⟨xs ++ ys, (ofPaths_append m xs ys).symm⟩

end Batch

def ChangeStream.paths (s : ChangeStream) : List Path := s.changes.map (·.path)

def ChangeStream.within (s : ChangeStream) (m : Matcher) : ChangeStream :=
  { s with changes := s.changes.filter fun change => m.affects change.path }

namespace Debouncer

variable {d : Debouncer}

/-! ## What is delivered is cut from the stream -/

/-- A burst is collected from the front of the stream, and all of it if the stream ends. -/
theorem collect_front (d : Debouncer) (closesAt : Nat) (b : Batch) (now : Nat)
    (changes : List Change) : ∃ burst, changes = burst ++ (d.collect closesAt b now changes).2.2.1 ∧
    (d.collect closesAt b now changes).1 = (burst.map (·.path)).foldl (Batch.add d.matcher) b ∧
    ((d.collect closesAt b now changes).2.2.2 = true →
      (d.collect closesAt b now changes).2.2.1 = []) := by
  induction changes generalizing b now with
  | nil => exact ⟨[], by unfold collect; split <;> simp⟩
  | cons change rest ih =>
    unfold collect
    split
    · obtain ⟨burst, front, batch, ended⟩ :=
        ih (b.add d.matcher change.path) (max now change.atMs)
      refine ⟨change :: burst, ?_, ?_, ended⟩
      · rw [List.cons_append, ← front]
      · rw [batch, List.map_cons, List.foldl_cons]
    · exact ⟨[], rfl, rfl, fun ended => absurd ended Bool.false_ne_true⟩

/-- A burst with its first change is a front of the stream, and collected to its batch. -/
theorem burst_front (d : Debouncer) (closesAt now : Nat) (first : Change) (rest : List Change) :
    let burst := d.collect closesAt (Batch.add d.matcher {} first.path) now rest
    ∃ front, first :: rest = front ++ burst.2.2.1 ∧
      burst.1 = Batch.ofPaths d.matcher (front.map (·.path)) ∧
      (burst.2.2.2 = true → burst.2.2.1 = []) := by
  obtain ⟨others, front, batch, ended⟩ :=
    d.collect_front closesAt (Batch.add d.matcher {} first.path) now rest
  exact ⟨first :: others, congrArg (first :: ·) front, batch, ended⟩

/-- What is delivered next has the batch of a front of the stream, if it is delivered at all. -/
theorem next?_front (d : Debouncer) (closesAt now : Nat) (changes : List Change) :
    match d.next? closesAt now changes with
    | none => (Batch.ofPaths d.matcher (changes.map (·.path))).isEmpty = true
    | some (x, rest) => ∃ front, changes = front ++ rest ∧
      x.batch = Batch.ofPaths d.matcher (front.map (·.path)) ∧ x.batch.isEmpty = false := by
  fun_induction d.next? closesAt now changes with
  | case1 => rfl
  | case2 now first rest burst affects =>
    obtain ⟨front, whole, batch, -⟩ := d.burst_front closesAt (max now first.atMs) first rest
    exact ⟨front, whole, batch, by simpa using affects⟩
  | case3 now first rest burst empty ended =>
    obtain ⟨front, whole, batch, all⟩ := d.burst_front closesAt (max now first.atMs) first rest
    rw [whole, all ended, List.append_nil, ← batch]
    simpa using empty
  | case4 now first rest burst empty _ ih =>
    obtain ⟨front, whole, batch, -⟩ := d.burst_front closesAt (max now first.atMs) first rest
    have nothing : Batch.ofPaths d.matcher (front.map (·.path)) = {} := by
      refine Batch.ofPaths_eq_empty ?_
      rw [← batch]
      simpa using empty
    have joined (more : List Change) :
        Batch.ofPaths d.matcher ((front ++ more).map (·.path)) =
          Batch.ofPaths d.matcher (more.map (·.path)) := by
      rw [List.map_append, Batch.ofPaths_append, nothing, Batch.empty_merge]
    rw [whole]
    split at ih
    · rw [joined]
      exact ih
    · obtain ⟨next, left, batch, affects⟩ := ih
      exact ⟨front ++ next, by rw [List.append_assoc, ← left], by rw [joined, batch], affects⟩

/-- What is delivered are the batches of parts of the stream, without those that affect nothing. -/
theorem exists_groups (d : Debouncer) (closesAt now : Nat) (changes : List Change) :
    ∃ groups : List (List Path), groups.flatten = changes.map (·.path) ∧
      (d.deliveries closesAt now changes).map (·.batch) =
        (groups.map (Batch.ofPaths d.matcher)).filter (!·.isEmpty) := by
  fun_induction d.deliveries closesAt now changes with
  | case1 now changes h =>
    have empty := d.next?_front closesAt now changes
    rw [h] at empty
    exact ⟨[changes.map (·.path)], by simp, by simp [empty]⟩
  | case2 now changes delivery rest h ih =>
    obtain ⟨groups, flatten, batches⟩ := ih
    have next := d.next?_front closesAt now changes
    rw [h] at next
    obtain ⟨front, rfl, batch, some⟩ := next
    refine ⟨front.map (·.path) :: groups, by rw [List.flatten_cons, flatten, List.map_append], ?_⟩
    rw [List.map_cons, batches, List.map_cons, ← batch, List.filter_cons_of_pos (by simp [some])]

def delivered (d : Debouncer) (s : ChangeStream) : Batch :=
  Batch.mergeAll ((d.run s).map (·.batch))

/-- Neither the times nor the quiet period matter for what is delivered in all. -/
theorem delivered_eq (d : Debouncer) (s : ChangeStream) :
    d.delivered s = Batch.ofPaths d.matcher s.paths := by
  obtain ⟨groups, flatten, batches⟩ := d.exists_groups s.closesAt 0 s.changes
  rw [delivered, run, batches, Batch.mergeAll_ofPaths, flatten]
  rfl

private theorem exists_paths_of_mem_run {s : ChangeStream} {b : Batch}
    (h : b ∈ (d.run s).map (·.batch)) : ∃ xs, b = Batch.ofPaths d.matcher xs := by
  obtain ⟨groups, -, batches⟩ := d.exists_groups s.closesAt 0 s.changes
  rw [run, batches] at h
  obtain ⟨xs, -, rfl⟩ := List.mem_map.1 (List.mem_filter.1 h).1
  exact ⟨xs, rfl⟩

/-- What is rebuilt does not depend on how changes were grouped. -/
theorem grouping_makes_no_difference (m : Matcher) :
    (∀ xs ys, Batch.ofPaths m (xs ++ ys) = (Batch.ofPaths m xs).merge (Batch.ofPaths m ys)) ∧
    (∀ quiet quiet' (s s' : ChangeStream), s.paths = s'.paths →
      delivered ⟨m, quiet⟩ s = delivered ⟨m, quiet'⟩ s') ∧
    (∀ quiet s, delivered ⟨m, quiet⟩ (s.within m) = delivered ⟨m, quiet⟩ s) ∧
    (∀ quiet s, (delivered ⟨m, quiet⟩ s).InStep m ∧
      ∀ b, Batch.MergedFrom ((run ⟨m, quiet⟩ s).map (·.batch)) b → b.InStep m) ∧
    (∀ first rest, WatchLoop.drain first rest = Batch.mergeAll (first :: rest)) ∧
    (∀ a b c : Batch, (a.merge b).merge c = a.merge (b.merge c)) ∧
    (∀ a : Batch, Batch.merge {} a = a ∧ a.merge {} = a ∧ a.merge a = a) ∧
    ∀ a b : Batch, (a.merge b).SameAs (b.merge a) := by
  refine ⟨Batch.ofPaths_append m, fun quiet quiet' s s' same => ?_, fun quiet s => ?_,
    fun quiet s => ⟨?_, fun b merged => ?_⟩, Batch.drain_eq_mergeAll, Batch.merge_assoc,
    fun a => ⟨a.empty_merge, a.merge_empty, a.merge_self⟩, Batch.merge_comm⟩
  · rw [delivered_eq, delivered_eq, same]
  · have filtered : (s.within m).paths = s.paths.filter m.affects := by
      rw [ChangeStream.paths, ChangeStream.paths, List.filter_map]
      rfl
    rw [delivered_eq, delivered_eq, filtered, Batch.ofPaths_filter]
  · rw [delivered_eq]
    exact Batch.inStep_ofPaths m _
  · obtain ⟨xs, rfl⟩ := merged.exists_paths fun b hb => exists_paths_of_mem_run hb
    exact Batch.inStep_ofPaths m xs

def scattered : ChangeStream where
  changes := [⟨10, ⟨"/p/js/a.js"⟩⟩, ⟨20, ⟨"/p/README"⟩⟩, ⟨500, ⟨"/p/css/b.css"⟩⟩,
    ⟨900, ⟨"/p/js/./a.js"⟩⟩]
  closesAt := 1000

def gathered : ChangeStream where
  changes := scattered.changes.map fun change => { change with atMs := 0 }
  closesAt := 0

/-- Three batches or one: merged they are the same, and in step, as are the last and the first. -/
theorem grouping_makes_no_difference_scattered :
    let m : Matcher := ⟨[(⟨"/p/js"⟩, "js"), (⟨"/p/css"⟩, "css")]⟩
    scattered.paths = gathered.paths ∧ (run ⟨m, 50⟩ gathered).length = 1 ∧
    delivered ⟨m, 200⟩ scattered = delivered ⟨m, 50⟩ gathered ∧
    ∃ x y z, run ⟨m, 200⟩ scattered = [x, y, z] ∧ (z.batch.merge x.batch).InStep m := by
  intro m
  have same := (grouping_makes_no_difference m).2.1 200 50 scattered gathered rfl
  have inStep := ((grouping_makes_no_difference m).2.2.2.1 200 scattered).2
  have three : (run ⟨m, 200⟩ scattered).length = 3 := by decide +kernel
  obtain ⟨x, y, z, delivered⟩ := List.length_eq_three.1 three
  refine ⟨rfl, by decide +kernel, same, x, y, z, delivered, inStep _ ?_⟩
  rw [delivered]
  exact .merge (.single (by simp)) (.single (by simp))

end Debouncer

end AssetWatch
