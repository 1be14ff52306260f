import AssetWatch.Proofs.Order.Unions
import AssetWatch.Proofs.Targets.Roots

/-!
# The smallest cover

The folders to watch are those that lie under no other folder, each once and in path order. So
every folder lies under exactly one of them, and they depend on nothing but which folders there are:
not on their order, their repetition, their categories or their spelling.
-/

namespace AssetWatch.Matcher

variable {m m' : Matcher} {kept paths : List Path} {path : Path}

/-- What is kept stays in front, and what is added to it keeps its order. -/
theorem exists_sublist_dropNested (kept paths : List Path) :
    ∃ added, dropNested kept paths = kept ++ added ∧ added.Sublist paths := by
  induction paths generalizing kept with
  | nil => exact ⟨[], (List.append_nil _).symm, .slnil⟩
  | cons next paths ih =>
    rw [dropNested]
    split
    · obtain ⟨added, same, order⟩ := ih kept
      exact ⟨added, same, order.cons _⟩
    · obtain ⟨added, same, order⟩ := ih (kept ++ [next])
      exact ⟨next :: added, by rw [same, List.append_assoc]; rfl, order.cons_cons _⟩

private theorem increasing_watchRoots (m : Matcher) :
    m.watchRoots.Pairwise fun p q => p.key < q.key := by
  let folders : PathSet := .ofList (m.folders.map (·.1))
  obtain ⟨added, same, order⟩ := exists_sublist_dropNested [] folders.toList
  have roots : m.watchRoots = added := same
  rw [roots]
  exact folders.increasing.sublist order

/-- The matcher has the folder, perhaps in another spelling. -/
def Knows (m : Matcher) (path : Path) : Prop :=
  path.components ∈ m.folders.map (·.1.components)

structure IsTop (m : Matcher) (path : Path) : Prop where
  known : m.Knows path
  highest : ∀ folder ∈ m.folders, path.startsWith folder.1 = true →
    folder.1.components = path.components

/-- The tops of a matcher are its roots, in whatever spelling. -/
theorem isTop_iff : m.IsTop path ↔ path.components ∈ m.watchRoots.map Path.components := by
  rw [List.mem_map]
  constructor
  · rintro ⟨known, highest⟩
    obtain ⟨folder, among, same⟩ := List.mem_map.1 known
    obtain ⟨root, hroot, above⟩ := exists_watchRoot (show (folder.1, folder.2) ∈ _ from among)
    obtain ⟨name, configured⟩ := exists_folder_of_mem_watchRoots hroot
    refine ⟨root, hroot, highest _ configured ?_⟩
    rw [Path.startsWith_iff, ← same]
    exact Path.startsWith_iff.1 above
  · rintro ⟨root, hroot, same⟩
    obtain ⟨name, configured⟩ := exists_folder_of_mem_watchRoots hroot
    refine ⟨List.mem_map.2 ⟨_, configured, same⟩, fun folder among under => ?_⟩
    have below : root.startsWith folder.1 = true := by
      rw [Path.startsWith_iff, same]
      exact Path.startsWith_iff.1 under
    obtain ⟨other, hother, above⟩ := exists_watchRoot (show (folder.1, folder.2) ∈ _ from among)
    rw [watchRoot_unique hother hroot (Path.startsWith_trans below above) root.startsWith_refl] at above
    have shorter := Path.startsWith_iff.1 below
    have longer := Path.startsWith_iff.1 above
    rw [shorter.eq_of_length_le longer.length_le, same]

/-- Every folder lies under exactly one root. -/
theorem existsUnique_watchRoot {folder : Path × String} (known : folder ∈ m.folders) :
    ∃! root, root ∈ m.watchRoots ∧ folder.1.startsWith root = true := by
  obtain ⟨root, hroot, above⟩ := exists_watchRoot (show (folder.1, folder.2) ∈ _ from known)
  exact ⟨root, ⟨hroot, above⟩, fun other h => watchRoot_unique h.1 hroot h.2 above⟩

/-- Matchers with the same folders have the same tops. -/
theorem IsTop.congr (same : ∀ path, m.Knows path ↔ m'.Knows path) (top : m.IsTop path) :
    m'.IsTop path := by
  refine ⟨(same path).1 top.known, fun folder among under => ?_⟩
  have known : m.Knows folder.1 := (same folder.1).2 (List.mem_map.2 ⟨folder, among, rfl⟩)
  obtain ⟨other, hother, respelled⟩ := List.mem_map.1 known
  rw [← respelled]
  refine top.highest other hother ?_
  rw [Path.startsWith_iff, respelled]
  exact Path.startsWith_iff.1 under

private theorem mem_map_key_watchRoots {key : List String} :
    key ∈ m.watchRoots.map Path.key ↔ ∃ path, m.IsTop path ∧ path.key = key := by
  simp only [isTop_iff, List.mem_map]
  constructor
  · rintro ⟨root, hroot, rfl⟩
    exact ⟨root, ⟨root, hroot, rfl⟩, rfl⟩
  · rintro ⟨path, ⟨root, hroot, same⟩, rfl⟩
    exact ⟨root, hroot, Path.key_eq_iff.2 same⟩

/-- Matchers with the same folders have the same roots, perhaps in other spellings. -/
theorem watchRoots_congr (same : ∀ path, m.Knows path ↔ m'.Knows path) :
    m.watchRoots.map Path.components = m'.watchRoots.map Path.components := by
  have tops (path : Path) : m.IsTop path ↔ m'.IsTop path :=
    ⟨.congr same, .congr fun path => (same path).symm⟩
  let roots : PathSet := ⟨m.watchRoots, m.increasing_watchRoots⟩
  let roots' : PathSet := ⟨m'.watchRoots, m'.increasing_watchRoots⟩
  have keys : roots.toList.map Path.key = roots'.toList.map Path.key :=
    Sorted.map_key_eq fun key => by
      rw [mem_map_key_watchRoots, mem_map_key_watchRoots]
      simp only [tops]
  refine List.map_injective_iff.2 (List.map_injective_iff.2 Component.key_injective) ?_
  rw [List.map_map, List.map_map]
  exact keys

/-- The roots are the tops, in path order and each once. None lies under another, every folder lies
under exactly one, and nothing but which folders there are matters for them. -/
theorem watchRoots_minimal_cover (m : Matcher) :
    m.watchRoots.Pairwise (fun p q => p.key < q.key) ∧
    (∀ root ∈ m.watchRoots, ∃ name, (root, name) ∈ m.folders) ∧
    (∀ path, m.IsTop path ↔ path.components ∈ m.watchRoots.map Path.components) ∧
    m.watchRoots.Pairwise Path.Apart ∧
    (∀ folder ∈ m.folders, ∃! root, root ∈ m.watchRoots ∧ folder.1.startsWith root = true) ∧
    ∀ m' : Matcher, (∀ path, m.Knows path ↔ m'.Knows path) →
      m.watchRoots.map Path.components = m'.watchRoots.map Path.components :=
  ⟨m.increasing_watchRoots, fun _ => exists_folder_of_mem_watchRoots, fun _ => isTop_iff,
    m.pairwise_watchRoots, fun _ => existsUnique_watchRoot, fun _ => watchRoots_congr⟩

/-- A folder between whose name and those below it another name sorts as a text, and the same
folders in other spellings, in another order and for other categories. -/
theorem watchRoots_minimal_cover_respelled :
    let m : Matcher := ⟨[(⟨"/p/a/b"⟩, "js"), (⟨"/p/a-b"⟩, "css"), (⟨"/p/a"⟩, "js")]⟩
    let m' : Matcher := ⟨[(⟨"/p//a/"⟩, "css"), (⟨"/p/a"⟩, "js"), (⟨"/p/a-b/."⟩, "css"),
      (⟨"/p/./a/b"⟩, "css")]⟩
    (∀ path, m.Knows path ↔ m'.Knows path) ∧
      m.watchRoots.map Path.components = m'.watchRoots.map Path.components ∧
      ((⟨"/p/a/b"⟩, "js") ∈ m.folders ∧
        ∃! root, root ∈ m.watchRoots ∧ (⟨"/p/a/b"⟩ : Path).startsWith root = true) ∧
      m.watchRoots = [⟨"/p/a"⟩, ⟨"/p/a-b"⟩] := by
  intro m m'
  have folders : m.folders.map (·.1.components) = [[.root, .name "p", .name "a", .name "b"],
    [.root, .name "p", .name "a-b"], [.root, .name "p", .name "a"]] := by decide +kernel
  have folders' : m'.folders.map (·.1.components) = [[.root, .name "p", .name "a"],
    [.root, .name "p", .name "a"], [.root, .name "p", .name "a-b"],
    [.root, .name "p", .name "a", .name "b"]] := by decide +kernel
  have same : ∀ path, m.Knows path ↔ m'.Knows path := by
    intro path
    simp only [Knows, folders, folders', List.mem_cons, List.not_mem_nil, or_false]
    tauto
  obtain ⟨-, -, -, -, covered, only⟩ := watchRoots_minimal_cover m
  have nested : ((⟨"/p/a/b"⟩ : Path), "js") ∈ m.folders := List.mem_cons_self
  exact ⟨same, only m' same, ⟨nested, covered _ nested⟩, by decide +kernel⟩

end AssetWatch.Matcher
