import AssetWatch.Proofs.Host.Relisting
import AssetWatch.Proofs.Host.Spellings
import AssetWatch.Proofs.Order.Unions
import AssetWatch.Proofs.Targets.Entrypoints

/-!
# All entrypoints, and nothing else

The entrypoints of a folder are the entries of the directory it leads to that are regular files,
each once and in path order, in whatever order the system lists them. An entry is known for a file by
a path with the folder's spelling in front: where that is too long, or goes through too many links,
the entry is passed over.
-/

namespace AssetWatch

open Host (Tree Place Found IsName)

/-! ## Files in folders -/

namespace Path

variable {p : Path} {name other : String}

private theorem components_join_name (p : Path) (named : IsName name) :
    (p.join ⟨name⟩).components = p.components ++ [.name name] := by
  have one : Path.pieces (⟨name⟩ : Path).chars = [name.toList] := pieces_of_not_mem named.slash
  have last : [name.toList].filterMap Component.ofPiece? = [.name name] :=
    List.filterMap_cons_some named.ofPiece?
  by_cases given : p.text = ""
  · have relative : (⟨name⟩ : Path).isAbsolute ≠ true := by simp [named.isAbsolute]
    have front : name.toList ≠ ['.'] := fun here => named.not_idle (.inr (String.toList_inj.1 here))
    rw [join_of_relative p named.isAbsolute, if_pos (.inl given), given, String.empty_append,
      components_eq_nil_iff.2 given, components_of_relative relative one, if_neg front, last,
      List.nil_append]
  · rw [components_join given named.isAbsolute, one, last]

private theorem fileName_join (p : Path) (named : IsName name) :
    (p.join ⟨name⟩).fileName = name := by
  rw [fileName, fileName?, components_join_name p named, List.getLast?_concat]
  rfl

private theorem key_join_inj (p : Path) (named : IsName name) (other_named : IsName other) :
    (p.join ⟨name⟩).key = (p.join ⟨other⟩).key ↔ name = other := by
  rw [key_eq_iff, components_join_name p named, components_join_name p other_named]
  simp

private theorem le_utf8ByteSize_join (p : Path) (relative : (⟨name⟩ : Path).isAbsolute = false) :
    p.text.utf8ByteSize + name.utf8ByteSize ≤ (p.join ⟨name⟩).text.utf8ByteSize := by
  rw [join_of_relative p relative]
  split <;> simp only [String.utf8ByteSize_append] <;> omega

private theorem stemOf_ne_empty (given : name ≠ "") : stemOf name ≠ "" := by
  unfold stemOf
  dsimp only
  split
  · exact given
  · split
    · exact given
    · rename_i some
      simpa using some

end Path

namespace Targets

variable {tree : Tree} {cwd : Place} {root folder : Path} {category : String}
  {names others : List String} {isFile : Path → Bool}

private theorem increasing_entrypoints (isFile : Path → Bool) (category : String) (folder : Path)
    (named : ∀ name ∈ names, IsName name) (once : names.Nodup) :
    (entrypoints isFile category folder names).Pairwise fun a b => a.path.key < b.path.key := by
  have differ : ((entrypoints isFile category folder names).map (·.path.key)).Nodup := by
    refine ((List.mergeSort_perm ..).map _).nodup_iff.2 ?_
    rw [List.map_map, List.Nodup, List.pairwise_map]
    refine (once.filter _).imp_of_mem fun {name other} hn ho differs same => differs ?_
    exact (Path.key_join_inj folder (named name (List.mem_filter.1 hn).1)
      (named other (List.mem_filter.1 ho).1)).1 same
  have ordered : (entrypoints isFile category folder names).Pairwise
      fun a b => (decide ¬b.path.key < a.path.key) = true := by
    refine List.pairwise_mergeSort (fun a b c => ?_) (fun a b => ?_) _
    · simp only [decide_eq_true_eq, List.not_lt]
      exact List.le_trans
    · simp only [Bool.or_eq_true, decide_eq_true_eq, List.not_lt]
      exact List.le_total ..
  refine ((List.pairwise_map.1 differ).and ordered).imp fun ⟨differs, notAfter⟩ => ?_
  rw [decide_eq_true_eq] at notAfter
  exact Decidable.byContradiction fun before =>
    differs (Std.Trichotomous.trichotomous _ _ before notAfter)

/-- It makes no difference in which order names are listed. -/
theorem entrypoints_perm (category : String) (folder : Path) (same : names.Perm others)
    (named : ∀ name ∈ names, IsName name) (once : names.Nodup) :
    entrypoints isFile category folder names = entrypoints isFile category folder others := by
  have increasing := increasing_entrypoints isFile category folder named once
  have increasing' := increasing_entrypoints isFile category folder
    (fun name h => named name (same.mem_iff.2 h)) (same.nodup_iff.1 once)
  have members : ∀ e, e ∈ entrypoints isFile category folder names ↔
      e ∈ entrypoints isFile category folder others := by
    simp only [mem_entrypoints, same.mem_iff, implies_true]
  exact congrArg Sorted.toList
    (Sorted.ext_mem (s := ⟨_, increasing⟩) (t := ⟨_, increasing'⟩) members)

/-! ## What is discovered in a folder -/

section Folders

variable {links : Nat} {dir : Found}

private theorem discover_of_leadsTo (category : String)
    (leads : tree.LeadsTo cwd (root.join folder) links dir)
    (directory : dir.entry? = some .directory) :
    discover tree cwd root category folder =
      .ok (entrypoints (fun name => tree.isFile cwd ((root.join folder).join name)) category folder
        (tree.names dir.place)) :=
  discover_eq_ok_iff.2 ⟨Tree.isDirectory_iff.2 ⟨links, dir, leads, directory⟩, _,
    Tree.list_eq_ok_iff.2 ⟨links, dir, leads, directory, rfl⟩, rfl⟩

/-- In whatever order directories are listed, the same is discovered. -/
theorem discover_relisted {tree' : Tree} (category : String) (named : tree.Named)
    (relisted : tree.IsRelisted tree') :
    discover tree' cwd root category folder = discover tree cwd root category folder := by
  cases isDirectory : tree.isDirectory cwd (root.join folder) with
  | false =>
    have same := relisted.isDirectory_eq cwd (root.join folder)
    rw [isDirectory] at same
    simp [discover, isDirectory, ← same]
  | true =>
    obtain ⟨links, dir, leads, directory⟩ := Tree.isDirectory_iff.1 isDirectory
    obtain ⟨links', leads'⟩ : ∃ links', tree'.LeadsTo cwd (root.join folder) links' dir := by
      rw [← Tree.locate_eq_ok_iff, ← relisted.locate_eq]
      exact Tree.locate_eq_ok_iff.2 ⟨links, leads⟩
    rw [discover_of_leadsTo category leads directory, discover_of_leadsTo category leads' directory]
    simp only [relisted.isFile_eq]
    exact congrArg Except.ok (entrypoints_perm category folder (relisted.perm_names dir.place)
      (fun _ => Tree.isName_of_mem_names named) (Tree.nodup_names relisted.once dir.place)).symm

/-- What is found in a folder, when the folder leads to a directory through so many links: an
entrypoint for each file that can be reached from there, and nothing else. -/
structure IsExact (tree : Tree) (root : Path) (category : String) (folder : Path) (links : Nat)
    (dir : Place) (found : List Entrypoint) : Prop where
  increasing : found.Pairwise fun a b => a.path.key < b.path.key
  mem_iff : ∀ e, e ∈ found ↔ ∃ name ∈ tree.names dir, Entrypoint.isName name = true ∧
    ((root.join folder).join ⟨name⟩).text.utf8ByteSize < 4096 ∧
    (∃ more, links + more ≤ 40 ∧ tree.IsFileAt dir name more) ∧
    e = ⟨category, folder, folder.join ⟨name⟩⟩
  named : ∀ e ∈ found, e.path = folder.join ⟨e.fileName⟩ ∧
    root.join e.path = (root.join folder).join ⟨e.fileName⟩ ∧ e.fileName ∈ tree.names dir ∧
    e.fileStem ≠ ""

private theorem isExact_of_leadsTo (category : String) (named : tree.Named)
    (once : (tree.places.map (·.1)).Nodup) (leads : tree.LeadsTo cwd (root.join folder) links dir)
    (directory : dir.entry? = some .directory) :
    ∃ found, discover tree cwd root category folder = .ok found ∧
      IsExact tree root category folder links dir.place found := by
  have isName {name : String} (h : name ∈ tree.names dir.place) : IsName name :=
    Tree.isName_of_mem_names named h
  refine ⟨_, discover_of_leadsTo category leads directory, ?_, fun e => ?_, fun e he => ?_⟩
  · exact increasing_entrypoints _ category folder (fun _ => isName) (Tree.nodup_names once _)
  · rw [mem_entrypoints]
    refine exists_congr fun name => and_congr_right fun listed => ?_
    rw [Tree.isFile_join_iff leads directory (isName listed), and_assoc, and_assoc]
  · obtain ⟨name, listed, -, rfl⟩ := mem_entrypoints.1 he
    have called : Entrypoint.fileName ⟨category, folder, folder.join ⟨name⟩⟩ = name :=
      Path.fileName_join folder (isName listed)
    have given : name ≠ "" := fun empty => (isName listed).not_idle (.inl empty)
    refine ⟨by rw [called], by rw [called, Path.join_assoc], by rwa [called], ?_⟩
    rw [Entrypoint.fileStem, Path.fileStem, Path.fileName_join folder (isName listed)]
    exact Path.stemOf_ne_empty given

/-- A folder that is no directory is missing. In any other, files are found that can be reached by
their paths, all of them, and nothing but them. The order of listings makes no difference. This is for
a process that may search and list every directory, and for names that are texts (`Host.Tree`). -/
theorem discover_finds_reachable_files (tree : Tree) (cwd : Place) (root : Path) (category : String)
    (folder : Path) (named : tree.Named) (once : (tree.places.map (·.1)).Nodup) :
    (tree.isDirectory cwd (root.join folder) = false → discover tree cwd root category folder =
      .error (.missingFolder category (root.join folder))) ∧
    (tree.isDirectory cwd (root.join folder) = true →
      ∃ links dir found, tree.LeadsTo cwd (root.join folder) links dir ∧
        dir.entry? = some .directory ∧ discover tree cwd root category folder = .ok found ∧
        IsExact tree root category folder links dir.place found) ∧
    ∀ tree', tree.IsRelisted tree' →
      discover tree' cwd root category folder = discover tree cwd root category folder := by
  refine ⟨fun missing => ?_, fun isDirectory => ?_, fun tree' relisted =>
    discover_relisted category named relisted⟩
  · simp [discover, missing]
  · obtain ⟨links, dir, leads, directory⟩ := Tree.isDirectory_iff.1 isDirectory
    obtain ⟨found, discovered, exact⟩ := isExact_of_leadsTo category named once leads directory
    exact ⟨links, dir, found, leads, directory, discovered, exact⟩

end Folders

end Targets

def Host.Tree.withLink : Tree where
  places := [(["p"], 1), (["p", "js"], 2), (["p", "js", "b.js"], 3), (["p", "js", "a.js"], 4),
    (["p", "js", "_c.js"], 3), (["p", "js", "d.js"], 5)]
  nodes := #[⟨.directory, 0o755, 0⟩, ⟨.directory, 0o755, 0⟩, ⟨.directory, 0o755, 0⟩,
    ⟨.file ByteArray.empty, 0o644, 0⟩, ⟨.link ⟨"b.js"⟩, 0o777, 0⟩, ⟨.directory, 0o755, 0⟩]

namespace Targets

/-- The file and the link to it are found. -/
theorem discover_finds_reachable_files_linked :
    let discovered (tree : Tree) := discover tree [] ⟨"/p"⟩ "js" ⟨"js/"⟩
    ∃ links dir found, Tree.LeadsTo .withLink [] (Path.join ⟨"/p"⟩ ⟨"js/"⟩) links dir ∧
      IsExact .withLink ⟨"/p"⟩ "js" ⟨"js/"⟩ links dir.place found ∧
      (found.map (·.fileName)).Perm ["b.js", "a.js"] ∧
      ∀ tree', Tree.IsRelisted .withLink tree' → discovered tree' = .ok found := by
  intro discovered
  have named : ∀ entry ∈ Tree.withLink.places, ∀ name ∈ entry.1, IsName name := by decide +kernel
  obtain ⟨-, finds, relisted⟩ := discover_finds_reachable_files .withLink [] ⟨"/p"⟩ "js" ⟨"js/"⟩
    named (by decide +kernel)
  obtain ⟨links, dir, found, leads, -, here, exact⟩ := finds (by decide +kernel)
  refine ⟨links, dir, found, leads, exact, ?_, fun tree' h => (relisted tree' h).trans here⟩
  obtain ⟨-, names, listed, rfl⟩ := discover_eq_ok_iff.1 here
  have all : (Tree.list .withLink [] (Path.join ⟨"/p"⟩ ⟨"js/"⟩)).toOption =
      some ["b.js", "a.js", "_c.js", "d.js"] := by
    decide +kernel
  rw [listed] at all
  obtain rfl : names = ["b.js", "a.js", "_c.js", "d.js"] := Option.some.inj all
  refine ((List.mergeSort_perm ..).map _).trans (.of_eq ?_)
  decide +kernel

end Targets

/-! ## An entry whose path is too long -/

def longName : String := String.ofList (List.replicate 250 'a')

private theorem toList_longName : longName.toList = List.replicate 250 'a' := String.toList_ofList

private theorem utf8ByteSize_longName : longName.utf8ByteSize = 250 := by decide +kernel

private theorem eq_of_mem_longName {c : Char} (h : c ∈ longName.toList) : c = 'a' := by
  rw [toList_longName] at h
  exact List.eq_of_mem_replicate h

private theorem isName_longName : IsName longName where
  proper h := by
    have short : ∀ name ∈ ["", ".", ".."], name.utf8ByteSize ≤ 2 := by decide +kernel
    have size := short _ h
    rw [utf8ByteSize_longName] at size
    omega
  slash h := absurd (eq_of_mem_longName h) (by decide)
  nul h := absurd (eq_of_mem_longName h) (by decide)
  size := by rw [utf8ByteSize_longName]; omega

def Host.Tree.withLongName : Tree where
  places := [(["p"], 1), (["p", "js"], 2), (["p", "js", longName], 3)]
  nodes := #[⟨.directory, 0o755, 0⟩, ⟨.directory, 0o755, 0⟩, ⟨.directory, 0o755, 0⟩,
    ⟨.file ByteArray.empty, 0o644, 0⟩]

private theorem Host.Tree.Spells.leadsTo {t : Tree} {cwd : Place} {r : Path} {names : List String}
    (h : Spells r names) (directories : ∀ above, above <+: names → t.holdsDirectory above = true) :
    t.LeadsTo cwd r 0 ⟨names, t.at? names⟩ where
  plain := h.contains_nul
  given := h.given
  short := h.short
  starts := .inl h.absolute
  few := Nat.zero_le _
  follows := by
    rw [if_pos h.absolute]
    refine .ends ?_
    have walked : t.stride true [] (pieces r ++ []) = t.stride true ([] ++ names) [] :=
      stride_through h.named h.spelled directories
    rwa [List.append_nil] at walked

namespace Targets

def longFolder : Path := Path.respelled ⟨"js"⟩ 1960

private theorem join_longFolder :
    Path.join ⟨"/p"⟩ longFolder = (Path.join ⟨"/p"⟩ ⟨"js"⟩).respelled 1960 :=
  Path.join_respelled (by decide) 1960

private theorem utf8ByteSize_join_longFolder :
    (Path.join ⟨"/p"⟩ longFolder).text.utf8ByteSize = 3925 := by
  rw [join_longFolder, Path.utf8ByteSize_respelled]
  rfl

private theorem leadsTo_longFolder : Tree.withLongName.LeadsTo [] (Path.join ⟨"/p"⟩ longFolder) 0
    ⟨["p", "js"], Tree.withLongName.at? ["p", "js"]⟩ := by
  have components : (Path.join ⟨"/p"⟩ longFolder).components =
      .root :: ["p", "js"].map .name := by
    rw [join_longFolder, Path.components_respelled (by decide)]
    decide +kernel
  obtain ⟨absolute, spelled⟩ := Path.components_eq_root_cons_iff.1 components
  have short := utf8ByteSize_join_longFolder
  have spells : Tree.Spells (Path.join ⟨"/p"⟩ longFolder) ["p", "js"] :=
    ⟨absolute, by omega, by decide +kernel, spelled⟩
  have directories : ∀ above ∈ ["p", "js"].inits, Tree.withLongName.holdsDirectory above = true := by
    decide +kernel
  exact spells.leadsTo fun above front => directories above ((List.mem_inits ..).2 front)

private theorem isFileAt_longName : Tree.withLongName.IsFileAt ["p", "js"] longName 0 := by
  refine ⟨⟨["p", "js", longName], some (3, ⟨.file ByteArray.empty, 0o644, 0⟩)⟩, _, .ends ?_, rfl⟩
  refine Tree.stride_cons_other isName_longName ?_ nofun nofun
  simp [Tree.withLongName, Tree.at?, Tree.number?, Tree.node?, List.lookup_cons]

/-- The only entry of a folder is a regular file with the name of an entrypoint, and passed over. -/
theorem long_name_passed_over :
    let tree := Tree.withLongName
    tree.isDirectory [] (Path.join ⟨"/p"⟩ longFolder) = true ∧
      tree.names ["p", "js"] = [longName] ∧ Entrypoint.isName longName = true ∧
      tree.IsFileAt ["p", "js"] longName 0 ∧
      discover tree [] ⟨"/p"⟩ "js" longFolder = .ok [] := by
  intro tree
  have names : tree.names ["p", "js"] = [longName] := by decide +kernel
  have plain : Entrypoint.isName longName = true := by
    rw [Entrypoint.isName, toList_longName]
    rfl
  have directory : tree.isDirectory [] (Path.join ⟨"/p"⟩ longFolder) = true :=
    Tree.isDirectory_iff.2 ⟨_, _, leadsTo_longFolder, rfl⟩
  refine ⟨directory, names, plain, isFileAt_longName, ?_⟩
  rw [discover_of_leadsTo "js" leadsTo_longFolder rfl]
  refine congrArg Except.ok (List.eq_nil_iff_forall_not_mem.2 fun e he => ?_)
  obtain ⟨name, listed, ⟨-, isFile⟩, -⟩ := mem_entrypoints.1 he
  obtain rfl : name = longName := List.mem_singleton.1 (names ▸ listed)
  obtain ⟨short, -⟩ := (Tree.isFile_join_iff leadsTo_longFolder rfl isName_longName).1 isFile
  have longer := Path.le_utf8ByteSize_join (Path.join ⟨"/p"⟩ longFolder) isName_longName.isAbsolute
  rw [utf8ByteSize_join_longFolder, utf8ByteSize_longName] at longer
  omega

end Targets

end AssetWatch
