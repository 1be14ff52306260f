import AssetWatch.Config.Load
import AssetWatch.Proofs.Order.Members
import AssetWatch.Watch.Event

/-!
# Valid configurations

Whatever way a configuration comes in, nothing is wrong with it: a text that is parsed, a file
that is loaded at startup, a file that is read again after a report about it. Where nothing is
wrong, entrypoint folders and watch lists name the same categories.
-/

namespace AssetWatch

section Results

variable {ε ε' α β : Type} {e : Except ε α}

theorem bind_eq_ok_iff {f : α → Except ε β} {b : β} :
    e >>= f = .ok b ↔ ∃ a, e = .ok a ∧ f a = .ok b := by
  cases e with
  | ok a => exact ⟨fun h => ⟨a, rfl, h⟩, fun ⟨_, ha, h⟩ => by cases ha; exact h⟩
  | error _ => exact ⟨nofun, nofun⟩

theorem mapError_eq_ok_iff {f : ε → ε'} {a : α} : e.mapError f = .ok a ↔ e = .ok a := by
  cases e with
  | ok _ => exact ⟨fun h => by cases h; rfl, fun h => by cases h; rfl⟩
  | error _ => exact ⟨nofun, nofun⟩

/-- A result that passes a test is there. -/
theorem exists_of_any {test : α → Bool} (h : e.toOption.any test = true) :
    ∃ a, e = .ok a ∧ test a = true := by
  cases e with
  | ok a => exact ⟨a, rfl, h⟩
  | error _ => cases h

theorem exists_of_isSome (h : e.toOption.isSome = true) : ∃ a, e = .ok a := by
  cases e with
  | ok a => exact ⟨a, rfl⟩
  | error _ => cases h

end Results

namespace NameMap

variable {β : Type} {m : NameMap β} {name : String}

theorem get?_eq_some_iff {b : β} : m.get? name = some b ↔ (name, b) ∈ m.toList := by
  rw [get?, List.lookup_eq_some_iff]
  constructor
  · rintro ⟨before, after, h, -⟩
    simp [h]
  · intro h
    obtain ⟨before, after, h⟩ := List.append_of_mem h
    have increasing := m.increasing
    rw [h, List.pairwise_append] at increasing
    refine ⟨before, after, h, fun p hp => ?_⟩
    have smaller : p.1 < name := increasing.2.2 p hp _ List.mem_cons_self
    have differs : name ≠ p.1 := fun same => String.lt_irrefl _ (same ▸ smaller)
    simpa using differs

theorem mem_keys : name ∈ m.keys ↔ ∃ b, m.get? name = some b := by
  simp only [get?_eq_some_iff, keys, List.mem_map, Prod.exists, exists_and_right, exists_eq_right]

theorem contains_iff : m.contains name = true ↔ name ∈ m.keys := by
  rw [contains, Option.isSome_iff_exists, mem_keys]

end NameMap

namespace Config

variable {c : Config} {name : String}

theorem validate_eq_ok_iff : c.validate = .ok () ↔ c.faults = [] := by
  unfold validate
  split <;> simp_all

theorem broken_eq_nil_iff {rule : Bool} {fault : ConfigFault} :
    broken rule fault = [] ↔ rule = false := by
  cases rule <;> simp [broken]

/-- In a valid configuration a category has an entrypoint folder exactly if it is watched. -/
theorem mem_keys_iff_of_valid (valid : c.validate = .ok ()) :
    name ∈ c.targets.entrypointFolders.keys ↔ name ∈ c.targets.watch.keys := by
  have none := validate_eq_ok_iff.1 valid
  simp only [faults, List.append_eq_nil_iff, List.flatMap_eq_nil_iff] at none
  obtain ⟨⟨⟨⟨⟨folders, lists⟩, -⟩, -⟩, -⟩, -⟩ := none
  constructor
  · intro h
    obtain ⟨⟨name, folder⟩, he, rfl⟩ := List.mem_map.1 h
    have fine := folders _ he
    simp only [folderFaults, List.append_eq_nil_iff, broken_eq_nil_iff] at fine
    exact NameMap.contains_iff.1 (by simpa using fine.1)
  · intro h
    obtain ⟨⟨name, list⟩, he, rfl⟩ := List.mem_map.1 h
    have fine := lists _ he
    simp only [watchFaults, List.append_eq_nil_iff, broken_eq_nil_iff] at fine
    exact NameMap.contains_iff.1 (by simpa using fine.1)

theorem nodup_categories (c : Config) : c.categories.Nodup := Sorted.nodup_toList _

theorem mem_categories :
    name ∈ c.categories ↔ name ∈ c.targets.entrypointFolders.keys ∨ name ∈ c.targets.watch.keys := by
  rw [categories, NameSet.mem_ofList, List.mem_append]

/-- The categories of a valid configuration are those with an entrypoint folder. -/
theorem mem_categories_of_valid (valid : c.validate = .ok ()) :
    name ∈ c.categories ↔ ∃ folder, c.targets.entrypointFolders.get? name = some folder := by
  rw [mem_categories, ← mem_keys_iff_of_valid valid, or_self, NameMap.mem_keys]

/-! ## Where configurations come from -/

/-- A configuration of one category, in a folder of its name, for one environment. -/
def document (category environment : String) : String :=
  "[targets.bundle_entrypoints_folder]\n" ++ category ++ "=\"" ++ category ++ "\"\n" ++
  "[targets.watch]\n" ++ category ++ "=[\"" ++ category ++ "\"]\n" ++
  "[strategy]\ntype=\"SingleBatchedExecution\"\n" ++
  "[strategy.cmds]\n" ++ environment ++ "=\"bundle\"\n"

private theorem validate_of_ofDocument {document : Data.Value} (h : ofDocument document = .ok c) :
    c.validate = .ok () := by
  simp only [ofDocument, bind_eq_ok_iff, mapError_eq_ok_iff] at h
  obtain ⟨_, -, _, valid, same⟩ := h
  cases same
  exact valid

theorem validate_of_parse {content : String} (h : parse content = .ok c) :
    c.validate = .ok () := by
  unfold parse at h
  split at h
  · exact validate_of_ofDocument h
  · cases h

theorem validate_of_ofReading {path : Path} {reading : Except Host.Fault String}
    (h : ofReading path reading = .ok c) : c.validate = .ok () := by
  cases reading with
  | ok content => exact validate_of_parse h
  | error fault => cases h

end Config

namespace ConfigWatch

theorem forward_of_parse {w : ConfigWatch} {e : FileEvent} {content : String} {c : Config}
    (concerned : w.concerns e = true) (parsed : Config.parse content = .ok c) :
    w.forward e (.ok content) = some c := by
  simp only [forward, concerned, if_true, Config.ofReading, parsed]
  rfl

/-- Only valid configurations are passed on after a report. -/
theorem validate_of_forward {w : ConfigWatch} {e : FileEvent}
    {reading : Except Host.Fault String} {c : Config} (h : w.forward e reading = some c) :
    c.validate = .ok () := by
  unfold forward at h
  split at h
  · cases hr : Config.ofReading w.path reading with
    | error error => rw [hr] at h; cases h
    | ok found =>
      rw [hr] at h
      cases h
      exact Config.validate_of_ofReading hr
  · cases h

end ConfigWatch

end AssetWatch
