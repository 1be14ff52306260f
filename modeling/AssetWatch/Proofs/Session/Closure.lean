import AssetWatch.Proofs.Config.Validity
import AssetWatch.Proofs.Session.Planning
import AssetWatch.Proofs.Targets.Attribution
import AssetWatch.Proofs.Watch.Deliveries
import Mathlib.Data.List.Basic

/-!
# Planning what the watchers report

The categories that changes affect, that batches collect and that merged batches hold are all
named by the targets, and in a valid configuration each of them has an entrypoint folder. So a
build of them is refused for want of a command, or for the sake of a folder that cannot be read.
-/

namespace AssetWatch

open Host (Tree Place)

namespace Targets

variable {tree : Tree} {cwd : Place} {root folder : Path} {targets : Targets} {name : String}
  {names : List String} {error : DiscoveryError}

inductive Unreadable (tree : Tree) (cwd : Place) (root : Path) (name : String) (folder : Path) :
    DiscoveryError → Prop
  | missing (h : tree.isDirectory cwd (root.join folder) = false) :
      Unreadable tree cwd root name folder (.missingFolder name (root.join folder))
  | unlisted {fault : Host.Fault} (h : tree.isDirectory cwd (root.join folder) = true)
      (hf : tree.list cwd (root.join folder) = .error fault) :
      Unreadable tree cwd root name folder (.unreadable (root.join folder) fault)

private theorem unreadable_of_discover (h : discover tree cwd root name folder = .error error) :
    Unreadable tree cwd root name folder error := by
  unfold discover at h
  cases hd : tree.isDirectory cwd (root.join folder) with
  | false =>
    simp only [hd, Bool.not_false, if_true, Except.error.injEq] at h
    subst h
    exact .missing hd
  | true =>
    simp only [hd, Bool.not_true, Bool.false_eq_true, if_false] at h
    cases hl : tree.list cwd (root.join folder) with
    | error fault =>
      rw [hl] at h
      cases h
      exact .unlisted hd hl
    | ok found => rw [hl] at h; cases h

/-- Why categories cannot be discovered: one of them has no folder, or its folder cannot be
read. -/
theorem discoverAll_error (h : discoverAll tree cwd root targets names = .error error) :
    ∃ name ∈ names,
      (targets.entrypointFolders.get? name = none ∧ error = .unknownCategory name) ∨
      ∃ folder, targets.entrypointFolders.get? name = some folder ∧
        Unreadable tree cwd root name folder error := by
  induction names with
  | nil => cases h
  | cons first names ih =>
    rw [discoverAll] at h
    cases hg : targets.entrypointFolders.get? first with
    | none =>
      simp only [hg, Except.error.injEq] at h
      exact ⟨first, List.mem_cons_self, .inl ⟨hg, h.symm⟩⟩
    | some folder =>
      simp only [hg] at h
      cases hd : discover tree cwd root first folder with
      | error e =>
        obtain rfl : e = error := by simpa [hd, bind, Except.bind] using h
        exact ⟨first, List.mem_cons_self, .inr ⟨folder, hg, unreadable_of_discover hd⟩⟩
      | ok here =>
        cases hr : discoverAll tree cwd root targets names with
        | error e =>
          obtain rfl : e = error := by simpa [hd, hr, bind, Except.bind] using h
          obtain ⟨name, hn, reason⟩ := ih hr
          exact ⟨name, List.mem_cons_of_mem _ hn, reason⟩
        | ok rest => simp [hd, hr, bind, Except.bind, pure, Except.pure] at h

end Targets

namespace Config

variable {c : Config} {tree : Tree} {cwd : Place} {root : Path} {env : Environment}
  {names : List String} {error : BuildError}

inductive Refuses (c : Config) (tree : Tree) (cwd : Place) (root : Path) (env : Environment)
    (names : List String) : BuildError → Prop
  | noCommand {e : UnknownEnvironment} (h : c.strategy.commandFor env = .error e) :
      Refuses c tree cwd root env names (.environment e)
  | unreadable {name : String} {folder : Path} {e : DiscoveryError} (asked : name ∈ names)
      (configured : c.targets.entrypointFolders.get? name = some folder)
      (h : Targets.Unreadable tree cwd root name folder e) :
      Refuses c tree cwd root env names (.discovery e)

/-- A build is refused as unknown only for a category that the configuration does not name. -/
theorem refuses_or_unknown (valid : c.validate = .ok ())
    (h : c.plan tree cwd root env names = .error error) :
    c.Refuses tree cwd root env names error ∨
      ∃ name ∈ names, name ∉ c.categories ∧ error = .discovery (.unknownCategory name) := by
  cases hc : c.strategy.commandFor env with
  | error e =>
    rw [plan_of_noCommand hc] at h
    cases h
    exact .inl (.noCommand hc)
  | ok program =>
    rw [plan_of_command hc] at h
    split at h
    · cases h
    · rename_i e hd
      cases h
      obtain ⟨name, hn, ⟨hg, rfl⟩ | ⟨folder, hg, hu⟩⟩ := Targets.discoverAll_error hd
      · refine .inr ⟨name, hn, fun known => ?_, rfl⟩
        obtain ⟨folder, hf⟩ := (mem_categories_of_valid valid).1 known
        cases hg.symm.trans hf
      · exact .inl (.unreadable hn hg hu)

/-- Categories of a valid configuration are never refused as unknown. -/
theorem refuses_of_plan_error (valid : c.validate = .ok ()) (known : names ⊆ c.categories)
    (h : c.plan tree cwd root env names = .error error) :
    c.Refuses tree cwd root env names error := by
  rcases refuses_or_unknown valid h with refuses | ⟨name, hn, unknown, -⟩
  · exact refuses
  · exact absurd (known hn) unknown

end Config

/-- Batches that a debouncer delivers have only categories of the configuration whose folders it
matches, however they are merged. -/
theorem Batch.MergedFrom.categories_subset {c : Config} {tree : Tree} {cwd : Place} {root : Path}
    {quietMs : Nat} {stream : ChangeStream} {b : Batch}
    (h : MergedFrom
      ((Debouncer.run ⟨.ofTargets tree cwd root c.targets, quietMs⟩ stream).map (·.batch)) b) :
    b.categories.toList ⊆ c.categories := by
  intro name hn
  obtain ⟨_, hm, hn⟩ := h.exists_mem hn
  obtain ⟨delivery, hd, rfl⟩ := List.mem_map.1 hm
  obtain ⟨change, -, affected⟩ := Debouncer.affected_of_mem_deliveries hd hn
  exact Config.mem_categories.2 (Matcher.mem_keys_of_categoriesFor affected)

namespace Session

variable {σ : Type}

/-- A configuration that was accepted names every category that its watchers report, and a build
of these, or of all categories, is not refused as unknown. -/
theorem plan_closed_of_parse {content : String} {c : Config} (parsed : Config.parse content = .ok c)
    (s : Session) (x : Executor σ) (state : σ) (tree : Tree) (quietMs : Nat)
    (stream : ChangeStream) :
    (∀ b, Batch.MergedFrom ((Debouncer.run ⟨.ofTargets tree x.cwd s.root c.targets, quietMs⟩
        stream).map (·.batch)) b →
      b.categories.toList ⊆ c.categories ∧
      ∀ error, (s.plan x state b.categories.toList).under c = .error error →
        c.Refuses (x.tree state) x.cwd s.root s.environment b.categories.toList error) ∧
    ∀ error, (s.planAll x state).under c = .error error →
      c.Refuses (x.tree state) x.cwd s.root s.environment c.categories error := by
  have valid := Config.validate_of_parse parsed
  refine ⟨fun b merged => ?_, fun error h => ?_⟩
  · have known := merged.categories_subset
    exact ⟨known, fun error h => Config.refuses_of_plan_error valid known h⟩
  · exact Config.refuses_of_plan_error valid (List.Subset.refl _) h

/-- Scripts change twice while a text is in force that names them and has no command for the tests:
the two batches are merged, and the build of them is refused. -/
theorem plan_closed_of_parse_scripts : ∃ c first second error,
    Config.parse (Config.document "js" "live") = .ok c ∧ c.categories = ["js"] ∧
    (Debouncer.run ⟨.ofTargets (.ofFolders ["js"]) [] ⟨"/p"⟩ c.targets, 20⟩
      ⟨[⟨5, ⟨"/p/js/app"⟩⟩, ⟨60, ⟨"/p/js/lib"⟩⟩], 90⟩).map (·.batch) = [first, second] ∧
    (first.merge second).categories.toList = ["js"] ∧
    ((ofCategories ["js"]).plan .noting (.ofFolders [], [])
      (first.merge second).categories.toList).under c = .error error ∧
    c.Refuses (.ofFolders []) [] ⟨"/p"⟩ ⟨"test"⟩ (first.merge second).categories.toList error ∧
    (∀ b, Batch.MergedFrom [first, second] b →
      b.categories.toList ⊆ c.categories ∧
      ∀ error, ((ofCategories ["js"]).plan .noting (.ofFolders [], []) b.categories.toList).under c =
          .error error →
        c.Refuses (.ofFolders []) [] ⟨"/p"⟩ ⟨"test"⟩ b.categories.toList error) ∧
    ∀ error, ((ofCategories ["js"]).planAll .noting (.ofFolders [], [])).under c = .error error →
      c.Refuses (.ofFolders []) [] ⟨"/p"⟩ ⟨"test"⟩ c.categories error := by
  let stream : ChangeStream := ⟨[⟨5, ⟨"/p/js/app"⟩⟩, ⟨60, ⟨"/p/js/lib"⟩⟩], 90⟩
  let batches (c : Config) : List Batch :=
    (Debouncer.run ⟨.ofTargets (.ofFolders ["js"]) [] ⟨"/p"⟩ c.targets, 20⟩ stream).map (·.batch)
  have accepted : ((Config.parse (Config.document "js" "live")).toOption.any fun c =>
      c.categories == ["js"] && !(c.strategy.commandFor ⟨"test"⟩).toOption.isSome &&
        (batches c).length == 2 &&
        (List.zipWith Batch.merge (batches c) (batches c).tail).map (·.categories.toList) ==
          [["js"]]) = true := by decide +kernel
  obtain ⟨c, parsed, fine⟩ := exists_of_any accepted
  simp only [Bool.and_eq_true, Bool.not_eq_true', beq_iff_eq] at fine
  obtain ⟨⟨⟨known, noCommand⟩, two⟩, merged⟩ := fine
  obtain ⟨first, second, delivered⟩ := List.length_eq_two.1 two
  obtain ⟨error, unknown⟩ : ∃ error, c.strategy.commandFor ⟨"test"⟩ = .error error := by
    cases command : c.strategy.commandFor ⟨"test"⟩ with
    | error error => exact ⟨error, rfl⟩
    | ok program => simp [command, Except.toOption] at noCommand
  obtain ⟨closed, all⟩ := plan_closed_of_parse parsed (ofCategories ["js"]) .noting (.ofFolders [], [])
    (.ofFolders ["js"]) 20 stream
  change ∀ b, Batch.MergedFrom (batches c) b → _ at closed
  rw [delivered] at closed merged
  have refused : ((ofCategories ["js"]).plan .noting (.ofFolders [], [])
      (first.merge second).categories.toList).under c = .error (.environment error) :=
    Config.plan_of_noCommand unknown
  have both : Batch.MergedFrom [first, second] (first.merge second) :=
    .merge (.single (by simp)) (.single (by simp))
  exact ⟨c, first, second, _, parsed, known, delivered, (List.cons.inj merged).1, refused,
    (closed _ both).2 _ refused, closed, all⟩

end Session

end AssetWatch
