import AssetWatch.Proofs.Host.Places
import AssetWatch.Proofs.Path.Joins

/-!
# Walks through directories

A walk follows a number of links, and behind the directory it comes to a walk goes on from there. So
the entry of a directory is found by a path to the directory with the entry's name behind it, unless
the path is too long then, or there are too many links on the way.
-/

namespace AssetWatch.Host.Tree

variable {t : Tree} {cwd dir place above : Place} {todo more rest : List String} {target p : Path}
  {found g : Found} {links n m limit : Nat} {name : String}

/-- A walk, all links followed, comes to its end behind so many of them. -/
inductive Follows (t : Tree) : Place → List String → Nat → Found → Prop
  | ends {dir : Place} {todo : List String} {found : Found}
    (strides : t.stride true dir todo = .ok (.found found)) : Follows t dir todo 0 found
  | link {dir above : Place} {todo rest : List String} {target : Path} {links : Nat} {found : Found}
    (strides : t.stride true dir todo = .ok (.link above target rest)) (given : target.text ≠ "")
    (behind : Follows t (if target.isAbsolute then [] else above) (pieces target ++ rest) links
      found) : Follows t dir todo (links + 1) found

theorem walk_eq_ok_iff :
    t.walk true limit dir todo = .ok found ↔ ∃ links ≤ limit, t.Follows dir todo links found := by
  constructor
  · intro h
    fun_induction t.walk true limit dir todo with
    | case1 | case3 | case4 => cases h
    | case2 limit dir todo last strides =>
      cases h
      exact ⟨0, Nat.zero_le _, .ends strides⟩
    | case5 start todo dir target rest strides given limit ih =>
      obtain ⟨links, few, behind⟩ := ih h
      exact ⟨links + 1, Nat.succ_le_succ few, .link strides given behind⟩
  · rintro ⟨links, few, follows⟩
    induction follows generalizing limit with
    | ends strides => rw [walk.eq_def, strides]
    | link strides given behind ih =>
      obtain ⟨limit, rfl⟩ := Nat.exists_eq_add_of_lt (Nat.lt_of_lt_of_le (Nat.succ_pos _) few)
      rw [Nat.zero_add] at few ⊢
      rw [walk.eq_def, strides]
      dsimp only
      rw [if_neg given]
      exact ih (Nat.le_of_succ_le_succ few)

/-! ## What stands behind a walk -/

/-- What a stride comes to, and what it comes to when more pieces stand behind it: it goes on from
the directory it ends in, what is behind a link waits, and behind anything else it fails. -/
inductive GoesOn (t : Tree) (more : List String) : Except Fault Stride → Except Fault Stride → Prop
  | onward (dir : Place) : GoesOn t more (.ok (.found ⟨dir, t.at? dir⟩)) (t.stride true dir more)
  | waits (above : Place) (target : Path) (rest : List String) :
    GoesOn t more (.ok (.link above target rest)) (.ok (.link above target (rest ++ more)))
  | fails {s : Except Fault Stride} {fault : Fault}
    (noDirectory : ∀ found, s = .ok (.found found) → found.entry? ≠ some .directory)
    (noLink : ∀ above target rest, s ≠ .ok (.link above target rest)) :
    GoesOn t more s (.error fault)

private theorem GoesOn.of_error {fault fault' : Fault} : t.GoesOn more (.error fault)
    (.error fault') := by
  refine .fails (fun found h => ?_) fun above target rest h => ?_ <;> cases h

/-- Nothing is behind the end of a walk that is no directory. -/
theorem GoesOn.of_found {fault : Fault} (noDirectory : found.entry? ≠ some .directory) :
    t.GoesOn more (.ok (.found found)) (.error fault) := by
  refine .fails (fun other h => ?_) fun above target rest h => ?_
  · cases h
    exact noDirectory
  · cases h

private theorem goesOn_append (dir : Place) (todo : List String) (given : more ≠ []) :
    t.GoesOn more (t.stride true dir todo) (t.stride true dir (todo ++ more)) := by
  have further (todo : List String) : (todo ++ more).isEmpty = false := by simp [given]
  fun_induction t.stride true dir todo with
  | case1 dir => exact .onward dir
  | case2 dir piece todo idle ih =>
    rw [List.cons_append, stride, if_pos idle]
    exact ih
  | case3 dir todo idle ih =>
    rw [List.cons_append, stride, if_neg idle, if_pos rfl]
    exact ih
  | case4 dir piece todo idle up long =>
    rw [List.cons_append, stride, if_neg idle, if_neg up, if_pos long]
    exact .of_error
  | case5 dir piece todo idle up short place there =>
    rw [List.cons_append, stride, if_neg idle, if_neg up, if_neg short]
    simp only [place] at there
    simp only [there, further, Bool.false_eq_true, if_false]
    exact .of_found (by simp [Found.entry?])
  | case6 dir piece todo idle up short place there =>
    rw [List.cons_append, stride, if_neg idle, if_neg up, if_neg short]
    simp only [place] at there
    simp only [there, further, Bool.false_eq_true, if_false]
    exact .of_error
  | case7 dir piece todo idle up short place number node there entry ih =>
    rw [List.cons_append, stride, if_neg idle, if_neg up, if_neg short]
    simp only [place] at there
    simp only [there, entry]
    exact ih
  | case8 dir piece todo _ _ _ place number node there target entry ends =>
    rw [Bool.not_true, Bool.and_false] at ends
    cases ends
  | case9 dir piece todo idle up short place number node there target entry =>
    rw [List.cons_append, stride, if_neg idle, if_neg up, if_neg short]
    simp only [place] at there
    simp only [there, entry, further, Bool.false_and, Bool.false_eq_true, if_false]
    exact .waits ..
  | case10 dir piece todo idle up short place number node there last noDirectory noLink =>
    rw [List.cons_append, stride, if_neg idle, if_neg up, if_neg short]
    simp only [place] at there
    simp only [there, further, Bool.false_eq_true, if_false]
    exact .of_found fun directory => noDirectory (Option.some.inj directory)
  | case11 dir piece todo idle up short place number node there last noDirectory noLink =>
    rw [List.cons_append, stride, if_neg idle, if_neg up, if_neg short]
    simp only [place] at there
    simp only [there, further, Bool.false_eq_true, if_false]
    exact .of_error

private theorem Follows.of_stride_eq {start : Place} {old : List String}
    (same : t.stride true dir todo = t.stride true start old)
    (h : t.Follows start old links found) : t.Follows dir todo links found := by
  cases h with
  | ends strides => exact .ends (same.trans strides)
  | link strides given behind => exact .link (same.trans strides) given behind

/-- Behind a directory a walk goes on from there, with the links that are left. -/
theorem follows_append (further : more ≠ []) (h : t.Follows dir todo n found)
    (directory : found.entry? = some .directory) :
    t.Follows dir (todo ++ more) links g ↔ ∃ m, links = n + m ∧ t.Follows found.place more m g := by
  induction h generalizing links with
  | @ends dir todo found strides =>
    have goesOn := t.goesOn_append dir todo further
    rw [strides] at goesOn
    generalize hs : t.stride true dir (todo ++ more) = s at goesOn
    cases goesOn with
    | onward =>
      simp only [Nat.zero_add, exists_eq_left']
      exact ⟨.of_stride_eq hs.symm, .of_stride_eq hs⟩
    | fails noDirectory => exact absurd directory (noDirectory _ rfl)
  | @link dir above todo rest target n found strides given behind ih =>
    have goesOn := t.goesOn_append dir todo further
    rw [strides] at goesOn
    generalize hs : t.stride true dir (todo ++ more) = s at goesOn
    cases goesOn with
    | fails _ noLink => exact (noLink _ _ _ rfl).elim
    | waits =>
      have onward (links : Nat) := @ih links directory
      simp only [List.append_assoc] at onward
      constructor
      · intro h
        cases h with
        | ends strides => cases hs.symm.trans strides
        | link strides given behind =>
          cases hs.symm.trans strides
          obtain ⟨m, rfl, follows⟩ := (onward _).1 behind
          exact ⟨m, Nat.add_right_comm .., follows⟩
      · rintro ⟨m, rfl, follows⟩
        rw [Nat.add_right_comm]
        exact .link hs given ((onward _).2 ⟨m, rfl, follows⟩)

/-- A separator at the end of the way to a directory makes no difference. -/
theorem Follows.of_append_idle (h : t.Follows dir (todo ++ [""]) links found)
    (directory : found.entry? = some .directory) : t.Follows dir todo links found := by
  generalize idle : todo ++ [""] = whole at h
  induction h generalizing todo with
  | @ends dir whole found strides =>
    subst idle
    have goesOn := t.goesOn_append dir todo (List.cons_ne_nil "" [])
    rw [strides] at goesOn
    generalize hs : t.stride true dir todo = s at goesOn
    cases goesOn with
    | onward => exact .ends hs
  | @link dir above whole rest target n found strides given behind ih =>
    subst idle
    have goesOn := t.goesOn_append dir todo (List.cons_ne_nil "" [])
    rw [strides] at goesOn
    generalize hs : t.stride true dir todo = s at goesOn
    cases goesOn with
    | waits above target rest =>
      exact .link hs given (ih directory (List.append_assoc ..))

/-! ## Entries of the directory a path leads to -/

/-- The name of an entry stands behind the pieces of the path, in place of what a separator at its
end leaves. -/
theorem pieces_join (given : p.text ≠ "") (named : IsName name) :
    pieces (p.join ⟨name⟩) = pieces p ++ [name] ∨
    ∃ front, pieces p = front ++ [""] ∧ pieces (p.join ⟨name⟩) = front ++ [name] := by
  have last : (Path.pieces name.toList).map String.ofList = [name] := by
    rw [Path.pieces_of_not_mem named.slash, List.map_singleton, String.ofList_toList]
  rw [Path.join_of_relative p named.isAbsolute]
  split
  · rename_i ends
    obtain ⟨xs, hxs⟩ := List.getLast?_eq_some_iff.1 (ends.resolve_left given)
    refine .inr ⟨(Path.pieces xs).map String.ofList, ?_, ?_⟩
    · rw [pieces, hxs, Path.pieces_append_slash, List.map_append]
      rfl
    · rw [pieces, Path.chars, String.toList_append, ← Path.chars, hxs, List.append_assoc,
        List.singleton_append, Path.pieces_append_slash, List.map_append, last]
  · refine .inl ?_
    have chars : (⟨p.text ++ ("/" ++ name)⟩ : Path).chars = p.chars ++ '/' :: name.toList := by
      simp [Path.chars]
    rw [pieces, chars, Path.pieces_append_slash, List.map_append, last, pieces]

private theorem follows_join (given : p.text ≠ "") (named : IsName name)
    (h : t.Follows dir (pieces p) n found) (directory : found.entry? = some .directory) :
    t.Follows dir (pieces (p.join ⟨name⟩)) links g ↔
      ∃ m, links = n + m ∧ t.Follows found.place [name] m g := by
  rcases pieces_join given named with joined | ⟨front, separated, joined⟩
  · rw [joined]
    exact follows_append (List.cons_ne_nil _ _) h directory
  · rw [joined]
    rw [separated] at h
    exact follows_append (List.cons_ne_nil _ _) (h.of_append_idle directory) directory

structure LeadsTo (t : Tree) (cwd : Place) (p : Path) (links : Nat) (found : Found) : Prop where
  plain : p.chars.contains '\x00' = false
  given : p.text ≠ ""
  short : p.text.utf8ByteSize < 4096
  starts : p.isAbsolute = true ∨ (t.at? cwd).isSome = true
  few : links ≤ 40
  follows : t.Follows (if p.isAbsolute then [] else cwd) (pieces p) links found

theorem locate_eq_ok_iff : t.locate cwd p = .ok found ↔ ∃ links, t.LeadsTo cwd p links found := by
  constructor
  · intro h
    unfold locate at h
    split_ifs at h with nul empty long missing absolute
    all_goals
      obtain ⟨links, few, follows⟩ := walk_eq_ok_iff.1 h
      refine ⟨links, Bool.eq_false_iff.2 nul, empty, Nat.not_le.1 long, ?_, few, ?_⟩
    · exact .inl absolute
    · rwa [if_pos absolute]
    · rw [Bool.and_eq_true, not_and, Option.isNone_iff_eq_none] at missing
      exact .inr (Option.isSome_iff_ne_none.2 (missing (by simpa using absolute)))
    · rwa [if_neg absolute]
  · rintro ⟨links, leads⟩
    unfold locate
    have there : ¬((!p.isAbsolute && (t.at? cwd).isNone) = true) := by
      rcases leads.starts with absolute | there
      · simp [absolute]
      · simp [Option.isSome_iff_ne_none.1 there]
    rw [if_neg (Bool.eq_false_iff.1 leads.plain), if_neg leads.given,
      if_neg (Nat.not_le.2 leads.short), if_neg there]
    exact walk_eq_ok_iff.2 ⟨links, leads.few, leads.follows⟩

theorem leadsTo_join_iff (leads : t.LeadsTo cwd p n found)
    (directory : found.entry? = some .directory) (named : IsName name) : t.LeadsTo cwd (p.join ⟨name⟩) links g ↔
      (p.join ⟨name⟩).text.utf8ByteSize < 4096 ∧ links ≤ 40 ∧
        ∃ m, links = n + m ∧ t.Follows found.place [name] m g := by
  have absolute : (p.join ⟨name⟩).isAbsolute = p.isAbsolute := by
    rw [Path.join_of_relative p named.isAbsolute]
    split <;> exact Path.isAbsolute_append leads.given
  have plain : (p.join ⟨name⟩).chars.contains '\x00' = false := by
    have plain := leads.plain
    have nul := named.nul
    rw [Path.join_of_relative p named.isAbsolute]
    split <;> simp_all [Path.chars]
  have follows : t.Follows _ (pieces (p.join ⟨name⟩)) links g ↔ _ :=
    follows_join leads.given named leads.follows directory
  constructor
  · intro h
    refine ⟨h.short, h.few, follows.1 ?_⟩
    rw [← absolute]
    exact h.follows
  · rintro ⟨short, few, behind⟩
    refine ⟨plain, Path.given_join (fun empty => named.not_idle (.inl empty)), short,
      absolute ▸ leads.starts, few, ?_⟩
    rw [absolute]
    exact follows.2 behind

def IsFileAt (t : Tree) (dir : Place) (name : String) (links : Nat) : Prop :=
  ∃ found content, t.Follows dir [name] links found ∧ found.entry? = some (.file content)

theorem stat_eq_ok_iff {here : Nat × Node} : t.stat cwd p = .ok here ↔
    ∃ links found, t.LeadsTo cwd p links found ∧ found.here? = some here := by
  have there (found : Found) : found.here = .ok here ↔ found.here? = some here := by
    rw [Found.here]
    cases found.here? <;> simp
  rw [stat]
  cases located : t.locate cwd p with
  | error fault =>
    constructor
    · intro h
      cases h
    · rintro ⟨links, found, leads, -⟩
      cases located.symm.trans (locate_eq_ok_iff.2 ⟨links, leads⟩)
  | ok found =>
    refine (there found).trans ?_
    constructor
    · intro h
      obtain ⟨links, leads⟩ := locate_eq_ok_iff.1 located
      exact ⟨links, found, leads, h⟩
    · rintro ⟨links, other, leads, h⟩
      cases located.symm.trans (locate_eq_ok_iff.2 ⟨links, leads⟩)
      exact h

theorem isFile_iff : t.isFile cwd p = true ↔
    ∃ links found content, t.LeadsTo cwd p links found ∧ found.entry? = some (.file content) := by
  unfold isFile
  constructor
  · intro h
    split at h
    · rename_i number content mode modified found
      obtain ⟨links, found, leads, here⟩ := stat_eq_ok_iff.1 found
      exact ⟨links, found, content, leads, by rw [Found.entry?, here]; rfl⟩
    · cases h
  · rintro ⟨links, found, content, leads, file⟩
    obtain ⟨⟨number, ⟨entry, mode, modified⟩⟩, here, rfl⟩ := Option.map_eq_some_iff.1 file
    rw [stat_eq_ok_iff.2 ⟨links, found, leads, here⟩]

theorem isDirectory_iff : t.isDirectory cwd p = true ↔
    ∃ links found, t.LeadsTo cwd p links found ∧ found.entry? = some .directory := by
  unfold isDirectory
  constructor
  · intro h
    split at h
    · rename_i number mode modified found
      obtain ⟨links, found, leads, here⟩ := stat_eq_ok_iff.1 found
      exact ⟨links, found, leads, by rw [Found.entry?, here]; rfl⟩
    · cases h
  · rintro ⟨links, found, leads, file⟩
    obtain ⟨⟨number, ⟨entry, mode, modified⟩⟩, here, rfl⟩ := Option.map_eq_some_iff.1 file
    rw [stat_eq_ok_iff.2 ⟨links, found, leads, here⟩]

/-- Every directory can be listed, and nothing else can. -/
theorem list_eq_ok_iff {names : List String} : t.list cwd p = .ok names ↔
    ∃ links found, t.LeadsTo cwd p links found ∧ found.entry? = some .directory ∧
      names = t.names found.place := by
  constructor
  · intro listed
    unfold list at listed
    cases located : t.locate cwd p with
    | error fault => simp [located, bind, Except.bind] at listed
    | ok found =>
      obtain ⟨links, leads⟩ := locate_eq_ok_iff.1 located
      refine ⟨links, found, leads, ?_⟩
      cases here : found.here? with
      | none => simp [located, Found.here, here, bind, Except.bind] at listed
      | some node =>
        simp only [located, Found.here, here, bind, Except.bind] at listed
        split at listed
        · rename_i directory
          have entry : found.entry? = some .directory := by
            rw [Found.entry?, here]
            exact congrArg some directory
          exact ⟨entry, (Except.ok.inj listed).symm⟩
        · cases listed
  · rintro ⟨links, found, leads, directory, rfl⟩
    obtain ⟨⟨number, node⟩, here, entry⟩ := Option.map_eq_some_iff.1 directory
    rw [list, locate_eq_ok_iff.2 ⟨links, leads⟩]
    simp [bind, Except.bind, Found.here, here, entry]

/-- An entry of the directory that a path leads to is known for a regular file by its own path
unless that is too long, or there are too many links on the way. -/
theorem isFile_join_iff (leads : t.LeadsTo cwd p n found)
    (directory : found.entry? = some .directory) (named : IsName name) :
    t.isFile cwd (p.join ⟨name⟩) = true ↔ (p.join ⟨name⟩).text.utf8ByteSize < 4096 ∧
      ∃ m, n + m ≤ 40 ∧ t.IsFileAt found.place name m := by
  rw [isFile_iff]
  simp only [leadsTo_join_iff leads directory named]
  constructor
  · rintro ⟨_, g, content, ⟨short, few, m, rfl, follows⟩, file⟩
    exact ⟨short, m, few, g, content, follows, file⟩
  · rintro ⟨short, m, few, g, content, follows, file⟩
    exact ⟨_, g, content, ⟨short, few, m, rfl, follows⟩, file⟩

end AssetWatch.Host.Tree
