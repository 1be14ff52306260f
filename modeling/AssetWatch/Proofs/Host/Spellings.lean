import AssetWatch.Proofs.Host.Places

/-!
# Spellings of real places

The path of a real place goes through directories and no links. So whatever way its components,
or the first of them, are spelled, the spelling leads where they say, unless it is empty, too
long, or asks for a directory where there is none.
-/

namespace AssetWatch.Host

namespace Tree

variable {t : Tree} {cwd place : Place} {follow : Bool}

/-! ## Walks to real places -/

section Steps

variable {dir : Place} {name : String} {rest : List String}

private theorem stride_cons_idle {piece : List Char} (idle : Component.IsIdle piece) :
    t.stride follow dir (String.ofList piece :: rest) = t.stride follow dir rest := by
  have skipped : String.ofList piece = "" ∨ String.ofList piece = "." := by
    rcases idle with rfl | rfl
    · exact .inl rfl
    · exact .inr rfl
  rw [stride, if_pos skipped]

private theorem stride_cons_directory (named : IsName name)
    (directory : t.holdsDirectory (dir ++ [name]) = true) :
    t.stride follow dir (name :: rest) = t.stride follow (dir ++ [name]) rest := by
  obtain ⟨number, node, there, entry⟩ := exists_of_holdsDirectory directory
  rw [stride, if_neg named.not_idle, if_neg named.not_up, if_neg (Nat.not_lt.2 named.size)]
  simp only [there, entry]

/-- What is neither a directory nor a link ends a walk, and nothing may stand behind it. -/
theorem stride_cons_other (named : IsName name) {number : Nat} {node : Node}
    (there : t.at? (dir ++ [name]) = some (number, node)) (noDirectory : node.entry ≠ .directory)
    (noLink : ∀ target, node.entry ≠ .link target) :
    t.stride follow dir (name :: rest) =
      if rest.isEmpty then .ok (.found ⟨dir ++ [name], some (number, node)⟩)
      else .error .notDirectory := by
  rw [stride, if_neg named.not_idle, if_neg named.not_up, if_neg (Nat.not_lt.2 named.size)]
  simp only [there]

end Steps

section Names

variable {pieces : List (List Char)} {names todo : List String}

/-- Pieces that spell names of directories lead through these directories. -/
theorem stride_through (named : ∀ name ∈ names, IsName name)
    (spelled : pieces.filterMap Component.ofPiece? = names.map .name) :
    ∀ {dir : Place}, (∀ above, above <+: names → t.holdsDirectory (dir ++ above) = true) →
      t.stride follow dir (pieces.map String.ofList ++ todo) =
        t.stride follow (dir ++ names) todo := by
  induction pieces generalizing names with
  | nil =>
    intro dir _
    obtain rfl := List.map_eq_nil_iff.1 spelled.symm
    rw [List.map_nil, List.nil_append, List.append_nil]
  | cons piece pieces ih =>
    intro dir directories
    rw [List.map_cons, List.cons_append]
    cases hc : Component.ofPiece? piece with
    | none =>
      rw [stride_cons_idle (Component.ofPiece?_eq_none_iff.1 hc)]
      rw [List.filterMap_cons_none hc] at spelled
      exact ih named spelled directories
    | some component =>
      rw [List.filterMap_cons_some hc] at spelled
      obtain ⟨name, names, rfl, rfl, behind⟩ := List.map_eq_cons_iff.1 spelled.symm
      obtain ⟨first, others⟩ := List.forall_mem_cons.1 named
      obtain ⟨-, -, rfl⟩ := Component.ofPiece?_eq_name_iff.1 hc
      have step := directories [String.ofList piece] (by simp)
      rw [stride_cons_directory first step, ih others behind.symm fun above h => ?_,
        List.append_assoc, List.singleton_append]
      rw [List.append_assoc, List.singleton_append]
      exact directories _ (List.cons_prefix_cons.2 ⟨rfl, h⟩)

/-- Where there is no directory at the end, none may be asked for. -/
theorem stride_to_other {dir : Place} {name : String}
    (named : ∀ other ∈ names ++ [name], IsName other)
    (spelled : pieces.filterMap Component.ofPiece? = (names ++ [name]).map .name)
    (directories : ∀ above, above <+: names → t.holdsDirectory (dir ++ above) = true)
    {number : Nat} {node : Node} (there : t.at? (dir ++ names ++ [name]) = some (number, node))
    (noDirectory : node.entry ≠ .directory) (noLink : ∀ target, node.entry ≠ .link target) :
    (Path.EndsIdle pieces →
      t.stride follow dir (pieces.map String.ofList) = .error .notDirectory) ∧
    (¬Path.EndsIdle pieces → t.stride follow dir (pieces.map String.ofList) =
      .ok (.found ⟨dir ++ names ++ [name], some (number, node)⟩)) := by
  rw [List.map_append] at spelled
  obtain ⟨before, after, rfl, through, last⟩ := List.filterMap_eq_append_iff.1 spelled
  obtain ⟨idles, piece, rest, rfl, idle, here, behind⟩ := List.filterMap_eq_cons_iff.1 last
  have named := List.forall_mem_append.1 named
  have through : (before ++ idles).filterMap Component.ofPiece? = names.map .name := by
    rw [List.filterMap_append, through, List.filterMap_eq_nil_iff.2 idle, List.append_nil]
  obtain ⟨notIdle, -, rfl⟩ := Component.ofPiece?_eq_name_iff.1 here
  have walked : t.stride follow dir ((before ++ (idles ++ piece :: rest)).map String.ofList) =
      t.stride follow (dir ++ names) (String.ofList piece :: rest.map String.ofList) := by
    rw [← List.append_assoc, List.map_append, List.map_cons,
      stride_through named.1 through directories]
  rw [walked, stride_cons_other (List.forall_mem_singleton.1 named.2) there noDirectory noLink]
  cases rest with
  | nil =>
    refine ⟨fun ⟨final, h, finalIdle⟩ => ?_, fun _ => rfl⟩
    simp only [← List.append_assoc, List.getLast?_concat, Option.some.injEq] at h
    exact absurd (h ▸ finalIdle) notIdle
  | cons second rest =>
    have final : (before ++ (idles ++ piece :: second :: rest)).getLast? =
        some ((second :: rest).getLast (List.cons_ne_nil _ _)) := by
      simp [List.getLast?_eq_some_getLast]
    refine ⟨fun _ => rfl, fun asksNot => absurd ⟨_, final, ?_⟩ asksNot⟩
    exact Component.ofPiece?_eq_none_iff.1
      (List.filterMap_eq_nil_iff.1 behind _ (List.getLast_mem _))

end Names

/-! ## Paths to real places -/

section Paths

variable {r : Path} {names : List String}

private theorem components_toPath (named : ∀ name ∈ place, IsName name) :
    place.toPath.components = .root :: place.map .name := by
  have chars : place.toPath.chars = [] ++ '/' :: ['/'].intercalate (place.map String.toList) := by
    rw [Path.chars, Place.toPath, String.toList_append, String.toList_intercalate]
    rfl
  refine Path.components_eq_root_cons_iff.2 ⟨by rw [Path.isAbsolute, chars]; rfl, ?_⟩
  rw [chars, Path.pieces_append_slash, List.filterMap_append]
  cases place with
  | nil => rfl
  | cons first rest =>
    have slashless : ∀ part ∈ (first :: rest).map String.toList, '/' ∉ part := by
      rw [List.forall_mem_map]
      exact fun name h => (named name h).slash
    rw [Path.pieces_intercalate (by simp) slashless, List.filterMap_map]
    exact List.filterMap_eq_map_iff_forall_eq_some.2 fun name h => (named name h).ofPiece?

/-- A path from the top spells names, and is short enough to be used. -/
structure Spells (r : Path) (names : List String) : Prop where
  absolute : r.isAbsolute = true
  short : r.text.utf8ByteSize < 4096
  named : ∀ name ∈ names, IsName name
  spelled : (Path.pieces r.chars).filterMap Component.ofPiece? = names.map .name

namespace Spells

theorem given (h : Spells r names) : r.text ≠ "" := Path.given_of_isAbsolute h.absolute

/-- Such a path has no character that a path cannot have. -/
theorem contains_nul (h : Spells r names) : r.chars.contains '\x00' = false := by
  rw [Bool.eq_false_iff]
  intro found
  obtain ⟨piece, hp, hc⟩ := Path.exists_piece_of_mem (List.contains_iff_mem.1 found) (by decide)
  cases component : Component.ofPiece? piece with
  | none =>
    rcases Component.ofPiece?_eq_none_iff.1 component with rfl | rfl
    · cases hc
    · simp at hc
  | some c =>
    have mem : c ∈ names.map Component.name :=
      h.spelled ▸ List.mem_filterMap.2 ⟨piece, hp, component⟩
    obtain ⟨name, hname, rfl⟩ := List.mem_map.1 mem
    obtain ⟨-, -, rfl⟩ := Component.ofPiece?_eq_name_iff.1 component
    exact (h.named _ hname).nul (by rwa [String.toList_ofList])

theorem locate_eq (h : Spells r names) : t.locate cwd r = t.walk true 40 [] (pieces r) := by
  unfold locate
  rw [h.contains_nul, if_neg Bool.false_ne_true, if_neg h.given, if_neg (Nat.not_le.2 h.short),
    h.absolute]
  simp only [Bool.not_true, Bool.false_and, if_neg Bool.false_ne_true, if_true]

private theorem locate_of_found {f : Found} (h : Spells r names)
    (ends : t.stride true [] (pieces r) = .ok (.found f)) : t.locate cwd r = .ok f := by
  rw [h.locate_eq]
  unfold walk
  rw [ends]

private theorem locate_of_fault {fault : Fault} (h : Spells r names)
    (ends : t.stride true [] (pieces r) = .error fault) : t.locate cwd r = .error fault := by
  rw [h.locate_eq]
  unfold walk
  rw [ends]

end Spells

/-- A spelling of a place where directories lead to a directory leads to it. -/
theorem isThere_of_directories (h : Spells r names)
    (directories : ∀ above, above <+: names → t.holdsDirectory above = true) :
    t.isThere cwd r = true := by
  have ends : t.stride true [] (pieces r ++ []) = t.stride true ([] ++ names) [] :=
    stride_through h.named h.spelled directories
  rw [List.append_nil, List.nil_append, stride] at ends
  obtain ⟨number, node, there, -⟩ := exists_of_holdsDirectory (directories names (List.prefix_refl _))
  exact isThere_of_found (h.locate_of_found ends) there

/-- A spelling of a real place without a directory leads to it unless it asks for one. -/
theorem isThere_iff_of_noDirectory (h : Spells r place) (real : t.IsReal place)
    (noDirectory : t.holdsDirectory place ≠ true) :
    t.isThere cwd r = true ↔ ¬r.AsksForDirectory := by
  obtain rfl | ⟨above, name, rfl⟩ := place.eq_nil_or_concat'
  · exact absurd real.top noDirectory
  · obtain ⟨number, node, there, noLink⟩ := real.here
    have other : node.entry ≠ .directory := by
      intro entry
      rw [holdsDirectory_of_at? there, entry] at noDirectory
      exact noDirectory rfl
    have directories : ∀ dir, dir <+: above → t.holdsDirectory ([] ++ dir) = true := by
      intro dir front
      refine real.above dir (front.trans (List.prefix_append _ _)) fun whole => ?_
      have shorter := whole ▸ front.length_le
      rw [List.length_append, List.length_singleton] at shorter
      omega
    obtain ⟨fails, ends⟩ : (r.AsksForDirectory → t.stride true [] (pieces r) = .error .notDirectory) ∧
        (¬r.AsksForDirectory → t.stride true [] (pieces r) =
          .ok (.found ⟨above ++ [name], some (number, node)⟩)) :=
      stride_to_other h.named h.spelled directories there other noLink
    by_cases asks : r.AsksForDirectory
    · rw [isThere_of_fault (h.locate_of_fault (fails asks))]
      exact iff_of_false Bool.false_ne_true (not_not_intro asks)
    · exact iff_of_true (isThere_of_found (h.locate_of_found (ends asks)) rfl) asks

/-- What the path of a place lies under spells the first of its names. -/
theorem exists_names_of_startsWith (named : ∀ name ∈ place, IsName name) (given : r.text ≠ "")
    (short : r.text.utf8ByteSize < 4096) (under : place.toPath.startsWith r = true) :
    ∃ names, names <+: place ∧ Spells r names ∧ (r.sameAs place.toPath = true ↔ names = place) := by
  have front := Path.startsWith_iff.1 under
  rw [components_toPath named] at front
  rcases List.prefix_cons_iff.1 front with empty | ⟨components, root, front⟩
  · exact absurd (Path.components_eq_nil_iff.1 empty) given
  · obtain ⟨names, hnames, rfl⟩ : ∃ names, names <+: place ∧ components = names.map .name := by
      refine ⟨place.take components.length, List.take_prefix .., ?_⟩
      rw [List.map_take]
      exact List.prefix_iff_eq_take.1 front
    obtain ⟨absolute, spelled⟩ := Path.components_eq_root_cons_iff.1 root
    refine ⟨names, hnames, ?_, ?_⟩
    · exact ⟨absolute, short, fun name h => named name (hnames.subset h), spelled⟩
    · rw [Path.sameAs_iff, root, components_toPath named, List.cons.injEq, and_iff_right rfl]
      exact (List.map_injective_iff.2 fun _ _ h => Component.name.inj h).eq_iff

structure IsUsable (t : Tree) (place : Place) (r : Path) : Prop where
  given : r.text ≠ ""
  short : r.text.utf8ByteSize < 4096
  directory : r.AsksForDirectory → r.sameAs place.toPath = true → t.holdsDirectory place = true

/-- A spelling of a real place, or of a directory above it, leads there if it can be used. -/
theorem isThere_iff_isUsable (real : t.IsReal place) (under : place.toPath.startsWith r = true) :
    t.isThere cwd r = true ↔ t.IsUsable place r := by
  by_cases unusable : r.text = "" ∨ 4096 ≤ r.text.utf8ByteSize
  · rw [isThere_of_unusable unusable]
    refine iff_of_false Bool.false_ne_true fun usable => ?_
    exact unusable.elim usable.given (Nat.not_le.2 usable.short)
  · obtain ⟨given, long⟩ := not_or.1 unusable
    have short := Nat.not_le.1 long
    obtain ⟨names, front, spells, same⟩ := exists_names_of_startsWith real.names given short under
    by_cases directory : t.holdsDirectory names = true
    · have directories : ∀ dir, dir <+: names → t.holdsDirectory dir = true := by
        intro dir h
        by_cases whole : dir = place
        · exact h.eq_of_length_le (whole ▸ front.length_le) ▸ directory
        · exact real.above dir (h.trans front) whole
      refine iff_of_true (isThere_of_directories spells directories) ⟨given, short, fun _ h => ?_⟩
      exact same.1 h ▸ directory
    · obtain rfl : names = place := by_contra fun proper => directory (real.above names front proper)
      rw [isThere_iff_of_noDirectory spells real directory]
      refine ⟨fun plain => ⟨given, short, fun asks => absurd asks plain⟩, fun usable asks => ?_⟩
      exact directory (usable.directory asks (same.2 rfl))

end Paths

end Tree

end AssetWatch.Host
