import AssetWatch.Host.Tree
import AssetWatch.Proofs.Path.Components

/-!
# Real places

A place is real if something other than a link is there and only directories lead to it. In a
sound tree, where every entry has a name and is in a directory, all that paths lead to, links
followed, are real places.
-/

namespace AssetWatch.Host

/-- What an entry of a directory can be called. -/
structure IsName (name : String) : Prop where
  proper : name ∉ ["", ".", ".."]
  slash : '/' ∉ name.toList
  nul : '\x00' ∉ name.toList
  size : name.utf8ByteSize ≤ 255

instance (name : String) : Decidable (IsName name) :=
  decidable_of_iff (name ∉ ["", ".", ".."] ∧ '/' ∉ name.toList ∧ '\x00' ∉ name.toList ∧
    name.utf8ByteSize ≤ 255)
    ⟨fun ⟨proper, slash, nul, size⟩ => ⟨proper, slash, nul, size⟩,
      fun h => ⟨h.proper, h.slash, h.nul, h.size⟩⟩

namespace IsName

variable {name : String}

theorem not_idle (h : IsName name) : ¬(name = "" ∨ name = ".") := by
  have proper := h.proper
  simp only [List.mem_cons, not_or] at proper
  exact not_or.2 ⟨proper.1, proper.2.1⟩

theorem not_up (h : IsName name) : name ≠ ".." := by
  have proper := h.proper
  simp only [List.mem_cons, not_or] at proper
  exact proper.2.2.1

theorem ofPiece? (h : IsName name) : Component.ofPiece? name.toList = some (.name name) := by
  have idle := h.not_idle
  have up := h.not_up
  rw [← String.toList_inj, ← String.toList_inj] at idle
  rw [ne_eq, ← String.toList_inj] at up
  exact Component.ofPiece?_eq_name_iff.2 ⟨idle, up, String.ofList_toList⟩

/-- A name is no path from the top. -/
theorem isAbsolute (h : IsName name) : (⟨name⟩ : Path).isAbsolute = false :=
  Bool.eq_false_iff.2 (mt Path.mem_chars_of_isAbsolute h.slash)

end IsName

/-! ## Places that are real -/

namespace Tree

variable {t : Tree} {cwd place : Place} {follow : Bool}

def holdsDirectory (t : Tree) (place : Place) : Bool :=
  (t.at? place).any fun found => found.2.entry.isDirectory

theorem holdsDirectory_of_at? {number : Nat} {node : Node} (h : t.at? place = some (number, node)) :
    t.holdsDirectory place = node.entry.isDirectory := by
  rw [holdsDirectory, h, Option.any_some]

theorem exists_of_holdsDirectory (h : t.holdsDirectory place = true) :
    ∃ number node, t.at? place = some (number, node) ∧ node.entry = .directory := by
  obtain ⟨⟨number, node⟩, found, directory⟩ := (Option.any_eq_true _ _).1 h
  refine ⟨number, node, found, ?_⟩
  cases entry : node.entry with
  | directory => rfl
  | _ => simp [entry, Entry.isDirectory] at directory

/-- Something other than a link is at a place, and directories lead there. -/
structure IsReal (t : Tree) (place : Place) : Prop where
  top : t.holdsDirectory [] = true
  names : ∀ name ∈ place, IsName name
  above : ∀ dir, dir <+: place → dir ≠ place → t.holdsDirectory dir = true
  here : ∃ number node, t.at? place = some (number, node) ∧ ∀ target, node.entry ≠ .link target

def CanonicalIsReal (t : Tree) (cwd : Place) : Prop :=
  ∀ p found, t.canonical cwd p = .ok found → ∃ place, found = place.toPath ∧ t.IsReal place

structure IsSound (t : Tree) : Prop where
  top : t.holdsDirectory [] = true
  names : ∀ entry ∈ t.places, ∀ name ∈ entry.1, IsName name
  closed : ∀ entry ∈ t.places, t.holdsDirectory entry.1.dropLast = true

instance (t : Tree) : Decidable t.IsSound :=
  decidable_of_iff (t.holdsDirectory [] = true ∧
    (∀ entry ∈ t.places, ∀ name ∈ entry.1, IsName name) ∧
    ∀ entry ∈ t.places, t.holdsDirectory entry.1.dropLast = true)
    ⟨fun ⟨top, names, closed⟩ => ⟨top, names, closed⟩, fun h => ⟨h.top, h.names, h.closed⟩⟩

private theorem mem_places_of_at? {found : Nat × Node} (h : t.at? place = some found) :
    place = [] ∨ ∃ number, (place, number) ∈ t.places := by
  obtain ⟨number, hn, -⟩ := Option.bind_eq_some_iff.1 h
  unfold number? at hn
  split at hn
  · exact .inl rfl
  · obtain ⟨before, after, places, -⟩ := List.lookup_eq_some_iff.1 hn
    exact .inr ⟨number, places ▸ List.mem_append_right _ List.mem_cons_self⟩

namespace IsSound

theorem holdsDirectory_dropLast (sound : t.IsSound) (h : t.holdsDirectory place = true) :
    t.holdsDirectory place.dropLast = true := by
  obtain ⟨number, node, found, -⟩ := exists_of_holdsDirectory h
  rcases mem_places_of_at? found with rfl | ⟨_, mem⟩
  · exact h
  · exact sound.closed _ mem

private theorem holdsDirectory_above (sound : t.IsSound) {found : Nat × Node}
    (h : t.at? place = some found) {dir : Place} (under : dir <+: place) (proper : dir ≠ place) :
    t.holdsDirectory dir = true := by
  induction place using List.reverseRecOn generalizing found with
  | nil => exact absurd (List.prefix_nil.1 under) proper
  | append_singleton place name ih =>
    have directory : t.holdsDirectory place = true := by
      rcases mem_places_of_at? h with empty | ⟨_, mem⟩
      · exact absurd empty (List.append_ne_nil_of_right_ne_nil _ (List.cons_ne_nil _ _))
      · simpa using sound.closed _ mem
    rcases List.prefix_concat_iff.1 under with same | under
    · exact absurd same proper
    · by_cases same : dir = place
      · exact same ▸ directory
      · obtain ⟨_, _, there, -⟩ := exists_of_holdsDirectory directory
        exact ih there under same

/-- Wherever there is something but a link, the place is real. -/
theorem isReal (sound : t.IsSound) {number : Nat} {node : Node}
    (h : t.at? place = some (number, node)) (noLink : ∀ target, node.entry ≠ .link target) :
    t.IsReal place where
  top := sound.top
  names := by
    rcases mem_places_of_at? h with rfl | ⟨_, mem⟩
    · exact nofun
    · exact sound.names _ mem
  above _ := sound.holdsDirectory_above h
  here := ⟨number, node, h, noLink⟩

end IsSound

/-! ## Entries of a directory -/

section Entries

variable {dir : Place} {name : String}

def nameIn? (dir place : Place) : Option String :=
  place.getLast?.filter fun _ => place.dropLast == dir

theorem nameIn?_eq_some_iff {place : Place} : nameIn? dir place = some name ↔
    place = dir ++ [name] := by
  rw [nameIn?, Option.filter_eq_some_iff, beq_iff_eq]
  constructor
  · rintro ⟨last, rfl⟩
    exact (List.dropLast_append_getLast? _ last).symm
  · rintro rfl
    exact ⟨List.getLast?_concat, List.dropLast_concat⟩

theorem names_eq (t : Tree) (dir : Place) :
    t.names dir = t.places.filterMap fun entry => nameIn? dir entry.1 := by
  rw [names]
  congr 1
  funext ⟨place, _⟩
  dsimp only [nameIn?]
  cases place.getLast? <;> rfl

theorem mem_names : name ∈ t.names dir ↔ ∃ number, (dir ++ [name], number) ∈ t.places := by
  rw [names_eq, List.mem_filterMap]
  constructor
  · rintro ⟨⟨place, number⟩, entry, called⟩
    exact ⟨number, nameIn?_eq_some_iff.1 called ▸ entry⟩
  · rintro ⟨number, entry⟩
    exact ⟨_, entry, nameIn?_eq_some_iff.2 rfl⟩

end Entries

/-! ## What is there -/

section Presence

variable {r : Path}

/-- A path that leads somewhere is walked, and can be used. -/
theorem walk_of_locate {f : Found} (h : t.locate cwd r = .ok f) :
    r.text ≠ "" ∧ r.text.utf8ByteSize < 4096 ∧
      t.walk true 40 (if r.isAbsolute then [] else cwd) (pieces r) = .ok f := by
  unfold locate at h
  split_ifs at h with nul empty long missing absolute
  · rw [if_pos absolute]
    exact ⟨empty, Nat.not_le.1 long, h⟩
  · rw [if_neg absolute]
    exact ⟨empty, Nat.not_le.1 long, h⟩

/-- Only what is found is there. -/
theorem exists_locate_of_canonical {found : Path} (h : t.canonical cwd r = .ok found) :
    ∃ f here, t.locate cwd r = .ok f ∧ f.here? = some here ∧ found = f.place.toPath := by
  unfold canonical at h
  cases hf : t.locate cwd r with
  | error fault => rw [hf] at h; cases h
  | ok f =>
    rw [hf] at h
    cases hh : f.here? with
    | none =>
      simp only [bind, Except.bind, hh] at h
      cases h
    | some here =>
      simp only [bind, Except.bind, hh, Except.ok.injEq] at h
      exact ⟨f, here, rfl, hh, h.symm⟩

theorem isThere_of_found {f : Found} {here : Nat × Node} (located : t.locate cwd r = .ok f)
    (h : f.here? = some here) : t.isThere cwd r = true := by
  simp only [isThere, stat, located, bind, Except.bind, Found.here, h]
  rfl

theorem isThere_of_fault {fault : Fault} (located : t.locate cwd r = .error fault) :
    t.isThere cwd r = false := by
  simp only [isThere, stat, located, bind, Except.bind]
  rfl

/-- Nothing is at an empty or overlong path. -/
theorem isThere_of_unusable (h : r.text = "" ∨ 4096 ≤ r.text.utf8ByteSize) :
    t.isThere cwd r = false := by
  cases located : t.locate cwd r with
  | error fault => exact isThere_of_fault located
  | ok f =>
    obtain ⟨given, short, -⟩ := walk_of_locate located
    exact absurd h (not_or.2 ⟨given, Nat.not_le.2 short⟩)

theorem isThere_iff_exists_canonical :
    t.isThere cwd r = true ↔ ∃ found, t.canonical cwd r = .ok found := by
  constructor
  · intro h
    cases located : t.locate cwd r with
    | error fault => rw [isThere_of_fault located] at h; cases h
    | ok f =>
      cases here : f.here? with
      | none =>
        simp only [isThere, stat, located, bind, Except.bind, Found.here, here] at h
        cases h
      | some _ => exact ⟨f.place.toPath, by simp [canonical, located, bind, Except.bind, here]⟩
  · rintro ⟨found, h⟩
    obtain ⟨f, here, located, there, -⟩ := exists_locate_of_canonical h
    exact isThere_of_found located there

end Presence

/-! ## Walks in sound trees -/

structure IsEnd (t : Tree) (found : Found) : Prop where
  here : found.here? = t.at? found.place
  noLink : ∀ number node, found.here? = some (number, node) → ∀ target, node.entry ≠ .link target

/-- A stride ends, or comes to a link in a directory. -/
def Reaches (t : Tree) : Stride → Prop
  | .found found => t.IsEnd found
  | .link dir _ _ => t.holdsDirectory dir = true

private theorem IsEnd.of_holdsDirectory (h : t.holdsDirectory place = true) :
    t.IsEnd ⟨place, t.at? place⟩ where
  here := rfl
  noLink number node here target link := by
    rw [holdsDirectory_of_at? here, link] at h
    cases h

theorem reaches_stride (sound : t.IsSound) {dir : Place} {todo : List String} {s : Stride}
    (directory : t.holdsDirectory dir = true) (h : t.stride true dir todo = .ok s) :
    t.Reaches s := by
  fun_induction t.stride true dir todo with
  | case1 dir =>
    cases h
    exact .of_holdsDirectory directory
  | case2 dir piece rest idle ih => exact ih directory h
  | case3 dir rest idle ih => exact ih (sound.holdsDirectory_dropLast directory) h
  | case4 | case6 | case11 => cases h
  | case5 dir piece rest _ _ _ place none =>
    cases h
    exact ⟨none.symm, nofun⟩
  | case7 dir piece rest _ _ _ place number node there entry ih =>
    refine ih ?_ h
    rw [holdsDirectory_of_at? there, entry]
    rfl
  | case8 dir piece rest _ _ _ place number node there target entry ends =>
    rw [Bool.not_true, Bool.and_false] at ends
    cases ends
  | case9 =>
    cases h
    exact directory
  | case10 dir piece rest _ _ _ place number node there _ _ noLink =>
    cases h
    refine ⟨there.symm, fun _ _ here => ?_⟩
    cases here
    exact noLink

private theorem isEnd_walk (sound : t.IsSound) {links : Nat} {dir : Place} {todo : List String}
    {found : Found} (directory : t.holdsDirectory dir = true)
    (h : t.walk true links dir todo = .ok found) : t.IsEnd found := by
  fun_induction t.walk true links dir todo with
  | case1 | case3 | case4 => cases h
  | case2 links dir todo last stride =>
    cases h
    exact reaches_stride sound directory stride
  | case5 start todo dir target rest stride _ links ih =>
    refine ih ?_ h
    split
    · exact sound.top
    · exact reaches_stride sound directory stride

theorem isEnd_locate (sound : t.IsSound) (working : t.holdsDirectory cwd = true) {p : Path}
    {found : Found} (h : t.locate cwd p = .ok found) : t.IsEnd found := by
  obtain ⟨-, -, walked⟩ := walk_of_locate h
  refine isEnd_walk sound ?_ walked
  split
  · exact sound.top
  · exact working

/-- In a sound tree, seen from a directory, paths lead to real places. -/
theorem IsSound.canonicalIsReal (sound : t.IsSound) (working : t.holdsDirectory cwd = true) :
    t.CanonicalIsReal cwd := by
  intro p found h
  obtain ⟨f, ⟨number, node⟩, located, here, rfl⟩ := exists_locate_of_canonical h
  have ending := isEnd_locate sound working located
  exact ⟨f.place, rfl, sound.isReal (ending.here ▸ here) (ending.noLink _ _ here)⟩

end Tree

end AssetWatch.Host
