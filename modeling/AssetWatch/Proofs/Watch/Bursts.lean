import AssetWatch.Proofs.Watch.Batches
import AssetWatch.Watch.Debounce
import Mathlib.Data.List.SplitBy

/-!
# Deliveries are the bursts of a stream

A stream of changes has one cut into maximal bursts: within a burst each change comes less than
the quiet period after the one before it, and between bursts at least the quiet period passes.
What is delivered is, in order, one batch for each burst that affects a category, a quiet period
after the last change of the burst or when the stream ends. A receiver that takes the batches
from a queue finds them at the same times.
-/

namespace AssetWatch

structure IsCut (quietMs : Nat) (changes : List Change) (bursts : List (List Change)) : Prop where
  joined : changes = bursts.flatten
  nonempty : [] ∉ bursts
  close : ∀ burst ∈ bursts, burst.IsChain fun a b => b.atMs < a.atMs + quietMs
  apart : bursts.IsChain fun x y =>
    ∀ a ∈ x.getLast?, ∀ b ∈ y.head?, a.atMs + quietMs ≤ b.atMs

namespace IsCut

variable {quietMs : Nat} {changes : List Change} {burst : List Change} {bursts : List (List Change)}

private theorem last_not_close_iff {x y : List Change} (hx : x ≠ []) (hy : y ≠ []) :
    (∃ hx hy, decide ((y.head hy).atMs < (x.getLast hx).atMs + quietMs) = false) ↔
      ∀ a ∈ x.getLast?, ∀ b ∈ y.head?, a.atMs + quietMs ≤ b.atMs := by
  simp [List.getLast?_eq_some_getLast hx, List.head?_eq_some_head hy, hx, hy]

/-- Any changes have exactly one cut into maximal bursts. -/
theorem iff_eq_splitBy :
    IsCut quietMs changes bursts ↔
      bursts = changes.splitBy fun a b => b.atMs < a.atMs + quietMs := by
  have apart_iff (hne : [] ∉ bursts) :
      (bursts.IsChain fun x y =>
        ∃ hx hy, decide ((y.head hy).atMs < (x.getLast hx).atMs + quietMs) = false) ↔
      bursts.IsChain fun x y => ∀ a ∈ x.getLast?, ∀ b ∈ y.head?, a.atMs + quietMs ≤ b.atMs := by
    have hall : ∀ x ∈ bursts, x ≠ [] := fun x hx he => hne (he ▸ hx)
    exact List.IsChain.iff_of_mem_imp fun x y hx hy => last_not_close_iff (hall x hx) (hall y hy)
  rw [eq_comm, List.splitBy_eq_iff]
  simp only [decide_eq_true_eq]
  constructor
  · rintro ⟨joined, nonempty, close, apart⟩
    exact ⟨joined, nonempty, close, (apart_iff nonempty).2 apart⟩
  · rintro ⟨joined, nonempty, close, apart⟩
    exact ⟨joined, nonempty, close, (apart_iff nonempty).1 apart⟩

theorem tail (h : IsCut quietMs changes (burst :: bursts)) :
    IsCut quietMs bursts.flatten bursts where
  joined := rfl
  nonempty := fun hn => h.nonempty (List.mem_cons_of_mem _ hn)
  close := fun b hb => h.close b (List.mem_cons_of_mem _ hb)
  apart := h.apart.tail

/-- The changes behind a burst begin a quiet period after its last change. -/
theorem apart_flatten (h : IsCut quietMs changes (burst :: bursts)) :
    ∀ a ∈ burst.getLast?, ∀ b ∈ bursts.flatten.head?, a.atMs + quietMs ≤ b.atMs := by
  cases bursts with
  | nil => simp
  | cons next bursts =>
    cases next with
    | nil => exact absurd (by simp) h.nonempty
    | cons b next => simpa using h.apart.rel

end IsCut

namespace Debouncer

variable {d : Debouncer} {closesAt now : Nat} {b : Batch} {first : Change}
  {burst rest changes : List Change} {bursts : List (List Change)}

/-! ## One burst -/

/-- When the last change of a burst came, if the one before it came at `now`. -/
def lastMs (now : Nat) : List Change → Nat
  | [] => now
  | change :: burst => lastMs change.atMs burst

private theorem lastMs_eq_getLast :
    ∀ last ∈ (first :: burst).getLast?, lastMs first.atMs burst = last.atMs := by
  induction burst generalizing first with
  | nil => simp [lastMs]
  | cons change burst ih => simpa [lastMs] using @ih change

/-- A burst is collected up to its end, whatever comes behind it. -/
theorem collect_burst
    (close : (now :: burst.map (·.atMs)).IsChain fun s t => s ≤ t ∧ t < s + d.quietMs)
    (clear : ∀ c ∈ rest.head?, lastMs now burst + d.quietMs < c.atMs ∧ c.atMs ≤ closesAt)
    (closing : lastMs now burst ≤ closesAt) :
    d.collect closesAt b now (burst ++ rest) =
      ((burst.map (·.path)).foldl (Batch.add d.matcher) b,
        min (lastMs now burst + d.quietMs) closesAt, rest,
        rest.isEmpty && decide (closesAt ≤ lastMs now burst + d.quietMs)) := by
  induction burst generalizing now b with
  | nil =>
    simp only [lastMs] at clear closing ⊢
    cases rest with
    | nil =>
      simp only [List.append_nil, collect]
      split
      · rename_i h
        simp [h, closing]
      · rename_i h
        simp [h, Nat.le_of_not_le h]
    | cons c rest =>
      obtain ⟨hlate, hopen⟩ := clear c rfl
      have hmin : min (now + d.quietMs) closesAt = now + d.quietMs := by omega
      simp [collect, Nat.not_le.2 hlate, hmin]
  | cons change burst ih =>
    obtain ⟨⟨hle, hlt⟩, htail⟩ := List.isChain_cons_cons.1 close
    have hin : change.atMs ≤ now + d.quietMs := Nat.le_of_lt hlt
    simp only [List.cons_append, collect, if_pos hin, Nat.max_eq_right hle]
    exact ih htail clear closing

def deliveryOf (d : Debouncer) (closesAt : Nat) (first : Change) (burst : List Change) : Delivery :=
  { batch := Batch.ofPaths d.matcher ((first :: burst).map (·.path))
    atMs := min (lastMs first.atMs burst + d.quietMs) closesAt }

/-- A burst that affects a category is the next delivery, and any other is passed over. -/
theorem next?_burst (start : now ≤ first.atMs)
    (close : ((first :: burst).map (·.atMs)).IsChain fun s t => s ≤ t ∧ t < s + d.quietMs)
    (clear : ∀ c ∈ rest.head?, lastMs first.atMs burst + d.quietMs < c.atMs ∧ c.atMs ≤ closesAt)
    (closing : lastMs first.atMs burst ≤ closesAt) :
    d.next? closesAt now (first :: burst ++ rest) =
      if (d.deliveryOf closesAt first burst).batch.isEmpty then
        d.next? closesAt (d.deliveryOf closesAt first burst).atMs rest
      else some (d.deliveryOf closesAt first burst, rest) := by
  have hcollect := collect_burst (b := Batch.add d.matcher {} first.path) close clear closing
  have hbatch : (burst.map (·.path)).foldl (Batch.add d.matcher) (Batch.add d.matcher {} first.path)
      = Batch.ofPaths d.matcher ((first :: burst).map (·.path)) := rfl
  rw [List.cons_append, next?, Nat.max_eq_right start, hcollect, hbatch, deliveryOf]
  generalize Batch.ofPaths d.matcher ((first :: burst).map (·.path)) = batch
  cases hempty : batch.isEmpty with
  | false => simp
  | true =>
    cases rest with
    | nil => simp [next?]
    | cons c rest => simp

/-! ## All bursts -/

private theorem deliveries_eq :
    d.deliveries closesAt now changes =
      match d.next? closesAt now changes with
      | none => []
      | some (delivery, rest) => delivery :: d.deliveries closesAt delivery.atMs rest := by
  rw [deliveries]
  split <;> simp [*]

def matters (d : Debouncer) (burst : List Change) : Bool :=
  burst.any fun change => d.matcher.affects change.path

/-- What is delivered for a burst: which categories, which paths, and when. -/
structure Delivers (d : Debouncer) (closesAt : Nat) (burst : List Change) (x : Delivery) :
    Prop where
  categories : ∀ name, name ∈ x.batch.categories.toList ↔
    ∃ change ∈ burst, name ∈ (d.matcher.categoriesFor change.path).toList
  paths : ∀ path, path ∈ x.batch.paths.toList ↔
    Sorted.IsFirst Path.key path ((burst.map (·.path)).filter d.matcher.affects)
  time : ∀ last ∈ burst.getLast?, x.atMs = min (last.atMs + d.quietMs) closesAt

private theorem delivers_deliveryOf :
    d.Delivers closesAt (first :: burst) (d.deliveryOf closesAt first burst) where
  categories name := by
    simp [deliveryOf, Batch.mem_categories_ofPaths]
  paths _ := Batch.mem_paths_ofPaths
  time last hlast := by
    rw [deliveryOf, lastMs_eq_getLast last hlast]

private theorem isEmpty_deliveryOf :
    (d.deliveryOf closesAt first burst).batch.isEmpty = !d.matters (first :: burst) := by
  rw [Bool.eq_iff_iff, deliveryOf, Batch.isEmpty_ofPaths]
  simp [matters]

private theorem isChain_and {α : Type} {r s : α → α → Prop} {xs : List α} (hr : xs.IsChain r)
    (hs : xs.IsChain s) : xs.IsChain fun a b => r a b ∧ s a b := by
  induction hr with
  | nil => exact .nil
  | singleton a => exact .singleton a
  | cons_cons hab _ ih =>
    obtain ⟨hs, htail⟩ := List.isChain_cons_cons.1 hs
    exact .cons_cons ⟨hab, hs⟩ (ih htail)

/-- The deliveries of a cut stream, seen from a moment before its first change. -/
theorem deliveries_of_cut (cut : IsCut d.quietMs changes bursts)
    (ordered : changes.IsChain fun a b => a.atMs ≤ b.atMs)
    (clear : changes.IsChain fun a b => b.atMs ≠ a.atMs + d.quietMs)
    (closing : ∀ change ∈ changes, change.atMs ≤ closesAt)
    (start : ∀ change ∈ changes.head?, now ≤ change.atMs) :
    List.Forall₂ (d.Delivers closesAt) (bursts.filter d.matters)
      (d.deliveries closesAt now changes) := by
  induction bursts generalizing changes now with
  | nil =>
    rw [cut.joined, deliveries_eq]
    simp [next?]
  | cons burst bursts ih =>
    cases burst with
    | nil => exact absurd List.mem_cons_self cut.nonempty
    | cons first burst =>
      obtain rfl : changes = first :: burst ++ bursts.flatten := cut.joined
      obtain ⟨last, hlast⟩ : ∃ last, last ∈ (first :: burst).getLast? :=
        ⟨_, List.getLast?_eq_some_getLast (List.cons_ne_nil first burst)⟩
      have hms : lastMs first.atMs burst = last.atMs := lastMs_eq_getLast last hlast
      have hclosing : lastMs first.atMs burst ≤ closesAt := by
        rw [hms]
        exact closing last (List.mem_append_left _ (List.mem_of_mem_getLast? hlast))
      have hlate : ∀ c ∈ bursts.flatten.head?,
          lastMs first.atMs burst + d.quietMs < c.atMs ∧ c.atMs ≤ closesAt := by
        intro c hc
        have hapart := cut.apart_flatten last hlast c hc
        have hne := (List.isChain_append.1 clear).2.2 last hlast c hc
        refine ⟨by omega, closing c (List.mem_append_right _ (List.mem_of_mem_head? hc))⟩
      have hclose : ((first :: burst).map (·.atMs)).IsChain fun s t => s ≤ t ∧ t < s + d.quietMs := by
        rw [List.isChain_map]
        exact isChain_and ordered.left_of_append (cut.close _ List.mem_cons_self)
      have hnext := next?_burst (start first rfl) hclose hlate hclosing
      have hrest := @ih (d.deliveryOf closesAt first burst).atMs _ cut.tail ordered.right_of_append
        clear.right_of_append (fun c hc => closing c (List.mem_append_right _ hc))
        (fun c hc => Nat.le_trans (Nat.min_le_left _ _) (Nat.le_of_lt (hlate c hc).1))
      rw [deliveries_eq, hnext, isEmpty_deliveryOf]
      cases hmatters : d.matters (first :: burst) with
      | false =>
        rw [List.filter_cons_of_neg (by simp [hmatters])]
        rw [deliveries_eq] at hrest
        simpa using hrest
      | true =>
        rw [List.filter_cons_of_pos hmatters]
        exact .cons delivers_deliveryOf hrest

/-! ## The queue in between -/

private theorem le_collect : now ≤ (d.collect closesAt b now changes).2.1 := by
  induction changes generalizing b now with
  | nil =>
    unfold collect
    split
    · exact Nat.le_max_left ..
    · simp
  | cons change rest ih =>
    unfold collect
    split
    · exact Nat.le_trans (Nat.le_max_left ..) ih
    · simp

private theorem le_next? {found : Delivery × List Change}
    (h : d.next? closesAt now changes = some found) : now ≤ found.1.atMs := by
  fun_induction d.next? closesAt now changes with
  | case1 => cases h
  | case2 now first rest burst =>
    cases h
    exact Nat.le_trans (Nat.le_max_left ..) le_collect
  | case3 => cases h
  | case4 now first rest burst _ _ ih =>
    exact Nat.le_trans (Nat.le_trans (Nat.le_max_left ..) le_collect) (ih h)

/-- Batches that are taken as soon as they are there are found when they are delivered. -/
theorem taken_deliveries : taken now (d.deliveries closesAt now changes) =
    d.deliveries closesAt now changes := by
  fun_induction d.deliveries closesAt now changes with
  | case1 => rfl
  | case2 now changes delivery rest h ih =>
    simp only [taken, Nat.max_eq_right (le_next? h), ih]

/-- A stream is delivered burst by burst, and a queue between makes no difference. -/
theorem run_delivers_bursts (d : Debouncer) (s : ChangeStream)
    (ordered : s.changes.IsChain fun a b => a.atMs ≤ b.atMs)
    (clear : s.changes.IsChain fun a b => b.atMs ≠ a.atMs + d.quietMs)
    (closing : ∀ change ∈ s.changes, change.atMs ≤ s.closesAt) :
    ∃ bursts, (∀ cut, IsCut d.quietMs s.changes cut ↔ cut = bursts) ∧
      List.Forall₂ (d.Delivers s.closesAt) (bursts.filter d.matters) (d.run s) ∧
      d.runQueued s = d.run s := by
  refine ⟨_, fun _ => IsCut.iff_eq_splitBy, ?_, taken_deliveries⟩
  exact deliveries_of_cut (IsCut.iff_eq_splitBy.2 rfl) ordered clear closing
    (fun _ _ => Nat.zero_le _)

def threeBursts : ChangeStream where
  changes := [⟨10, ⟨"/p/js/a.js"⟩⟩, ⟨150, ⟨"/p/README"⟩⟩, ⟨300, ⟨"/p/css/b.css"⟩⟩,
    ⟨1000, ⟨"/p/README"⟩⟩, ⟨2000, ⟨"/p/js/c.js"⟩⟩]
  closesAt := 2100

theorem run_delivers_bursts_three :
    let d : Debouncer := ⟨⟨[(⟨"/p/js"⟩, "js"), (⟨"/p/css"⟩, "css")]⟩, 200⟩
    0 < d.quietMs ∧ ∃ bursts, (∀ cut, IsCut d.quietMs threeBursts.changes cut ↔ cut = bursts) ∧
      List.Forall₂ (d.Delivers threeBursts.closesAt) (bursts.filter d.matters) (d.run threeBursts) ∧
      d.runQueued threeBursts = d.run threeBursts :=
  ⟨by decide, run_delivers_bursts _ threeBursts (by decide) (by decide) (by decide)⟩

end Debouncer

end AssetWatch
