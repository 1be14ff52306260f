import AssetWatch.Host.Machine
import AssetWatch.Proofs.Host.Places
import AssetWatch.Proofs.Text.Octets

/-!
# Which program a text leads to, and from where

A path with an idle piece at its end leads to a directory or nowhere, and no directory is run. A path
from the top leads to the same from every directory, and so does a bare name where the search path
has only such directories.
-/

namespace AssetWatch.Host

namespace Tree

variable {t : Tree} {cwd dir : Place} {todo rest more : List String} {piece : String} {p : Path}
  {found : Found}

/-! ## Directories that are asked for -/

def EndsIdle (todo : List String) : Prop :=
  ∀ piece, todo.getLast? = some piece → piece = "" ∨ piece = "."

theorem EndsIdle.tail (h : EndsIdle (piece :: rest)) : EndsIdle rest := by
  intro last ends
  refine h last ?_
  rw [List.getLast?_cons, ends, Option.getD_some]

/-- What does not count as idle has something behind it. -/
theorem EndsIdle.rest_ne_nil (h : EndsIdle (piece :: rest)) (named : ¬(piece = "" ∨ piece = ".")) :
    rest ≠ [] := by
  rintro rfl
  exact named (h piece rfl)

theorem EndsIdle.append (h : EndsIdle more) (given : more ≠ []) : EndsIdle (todo ++ more) := by
  intro last ends
  rw [List.getLast?_append_of_ne_nil _ given] at ends
  exact h last ends

private theorem endsIdle_pieces (asks : p.AsksForDirectory) : EndsIdle (pieces p) := by
  obtain ⟨last, ends, idle⟩ := asks
  intro piece h
  rw [pieces, List.getLast?_map, ends] at h
  obtain rfl := Option.some.inj h
  rcases idle with rfl | rfl
  · exact .inl rfl
  · exact .inr rfl

/-- A stride ends at a directory, or leaves what is to end there behind a link. -/
def LandsIdle : Stride → Prop
  | .found found => found.entry? = some .directory
  | .link _ _ rest => rest ≠ [] ∧ EndsIdle rest

private theorem landsIdle_stride (sound : t.IsSound) {s : Stride}
    (directory : t.holdsDirectory dir = true)
    (idle : EndsIdle todo) (h : t.stride true dir todo = .ok s) : LandsIdle s := by
  fun_induction t.stride true dir todo with
  | case1 dir =>
    cases h
    obtain ⟨number, node, there, entry⟩ := exists_of_holdsDirectory directory
    simp only [LandsIdle, Found.entry?, there, Option.map_some, entry]
  | case2 dir piece rest _ ih => exact ih directory idle.tail h
  | case3 dir rest _ ih => exact ih (sound.holdsDirectory_dropLast directory) idle.tail h
  | case4 | case6 | case11 => cases h
  | case7 dir piece rest _ _ _ place number node there entry ih =>
    refine ih ?_ idle.tail h
    rw [holdsDirectory_of_at? there, entry]
    rfl
  | case9 dir piece rest named =>
    cases h
    exact ⟨idle.rest_ne_nil named, idle.tail⟩
  | case5 dir piece rest named _ _ _ _ last =>
    exact absurd (List.isEmpty_iff.1 last) (idle.rest_ne_nil named)
  | case10 dir piece rest named _ _ _ _ _ _ last =>
    exact absurd (List.isEmpty_iff.1 last) (idle.rest_ne_nil named)
  | case8 dir piece rest _ _ _ _ _ _ _ _ _ ends =>
    rw [Bool.not_true, Bool.and_false] at ends
    cases ends

private theorem entry?_walk (sound : t.IsSound) {links : Nat}
    (directory : t.holdsDirectory dir = true)
    (idle : EndsIdle todo) (h : t.walk true links dir todo = .ok found) :
    found.entry? = some .directory := by
  fun_induction t.walk true links dir todo with
  | case1 | case3 | case4 => cases h
  | case2 links dir todo last stride =>
    cases h
    exact landsIdle_stride sound directory idle stride
  | case5 start todo dir target rest stride _ links ih =>
    have lands : LandsIdle (.link dir target rest) := landsIdle_stride sound directory idle stride
    refine ih ?_ (lands.2.append lands.1) h
    split
    · exact sound.top
    · exact reaches_stride sound directory stride

private theorem exists_locate_of_stat {here : Nat × Node} (h : t.stat cwd p = .ok here) :
    ∃ found, t.locate cwd p = .ok found ∧ found.here? = some here := by
  rw [stat] at h
  cases located : t.locate cwd p with
  | error fault => simp [located, bind, Except.bind] at h
  | ok found =>
    refine ⟨found, rfl, ?_⟩
    simp only [located, bind, Except.bind, Found.here] at h
    split at h
    · rename_i there
      cases h
      exact there
    · cases h

/-- In a sound tree, a path with an idle piece at its end leads to a directory, or nowhere. -/
theorem entry_of_stat (sound : t.IsSound) (working : t.holdsDirectory cwd = true)
    (asks : p.AsksForDirectory) {number : Nat} {node : Node} (h : t.stat cwd p = .ok (number, node)) :
    node.entry = .directory := by
  obtain ⟨found, located, here⟩ := exists_locate_of_stat h
  obtain ⟨-, -, walked⟩ := walk_of_locate located
  have start : t.holdsDirectory (if p.isAbsolute then [] else cwd) = true := by
    split
    · exact sound.top
    · exact working
  have directory := entry?_walk sound start (endsIdle_pieces asks) walked
  rw [Found.entry?, here] at directory
  exact Option.some.inj directory

theorem IsEnd.holdsDirectory (h : t.IsEnd found) (directory : found.entry? = some .directory) :
    t.holdsDirectory found.place = true := by
  obtain ⟨⟨number, node⟩, here, entry⟩ := Option.map_eq_some_iff.1 directory
  rw [holdsDirectory_of_at? (h.here.symm.trans here)]
  exact congrArg Entry.isDirectory entry

/-! ## Paths from the top -/

/-- A path from the top leads to the same from everywhere. -/
theorem stat_eq_of_absolute (absolute : p.isAbsolute = true) (cwd cwd' : Place) :
    t.stat cwd p = t.stat cwd' p := by
  rw [stat, stat, locate, locate, absolute]
  simp only [Bool.not_true, Bool.false_and, Bool.false_eq_true, if_false, if_true]

def ScriptsFromTop (t : Tree) : Prop :=
  ∀ number node content interpreter words, t.node? number = some node → node.entry = .file content →
    Executable.interpreter? content = some (interpreter, words) →
      (⟨Octets.text interpreter⟩ : Path).isAbsolute = true

private theorem node?_of_stat (sound : t.IsSound) (working : t.holdsDirectory cwd = true)
    {number : Nat}
    {node : Node} (h : t.stat cwd p = .ok (number, node)) : t.node? number = some node := by
  obtain ⟨found, located, here⟩ := exists_locate_of_stat h
  have placed := (isEnd_locate sound working located).here.symm.trans here
  obtain ⟨_, -, there⟩ := Option.bind_eq_some_iff.1 placed
  obtain ⟨_, there, same⟩ := Option.map_eq_some_iff.1 there
  cases same
  exact there

end Tree

namespace Executable

variable {t : Tree} {cwd cwd' : Place} {depth : Nat} {path : Octets} {args : List Octets}
  {again again' : Octets → List Octets → Except Fault Executable}

/-- No directory is run. -/
theorem findBy_of_asksForDirectory (sound : t.IsSound) (working : t.holdsDirectory cwd = true)
    (asks : (⟨Octets.text path⟩ : Path).AsksForDirectory) :
    ∃ fault, findBy t cwd again path args = .error fault := by
  cases there : t.stat cwd ⟨Octets.text path⟩ with
  | error fault => exact ⟨fault, by simp only [findBy, there, bind, Except.bind]⟩
  | ok here =>
    obtain ⟨number, node⟩ := here
    have directory : node.entry = .directory := Tree.entry_of_stat sound working asks there
    refine ⟨.accessDenied, ?_⟩
    simp only [findBy, there, bind, Except.bind, directory]
    rfl

private theorem find_of_asksForDirectory (sound : t.IsSound) (working : t.holdsDirectory cwd = true)
    (asks : (⟨Octets.text path⟩ : Path).AsksForDirectory) :
    ∃ fault, find t cwd depth path args = .error fault := by
  cases depth with
  | zero => exact findBy_of_asksForDirectory sound working asks
  | succ depth => exact findBy_of_asksForDirectory sound working asks

private theorem findBy_eq_of_absolute (sound : t.IsSound) (working : t.holdsDirectory cwd = true)
    (scripts : t.ScriptsFromTop) (absolute : (⟨Octets.text path⟩ : Path).isAbsolute = true)
    (same : ∀ path args, (⟨Octets.text path⟩ : Path).isAbsolute = true →
      again path args = again' path args) :
    findBy t cwd again path args = findBy t cwd' again' path args := by
  rw [findBy, findBy, ← Tree.stat_eq_of_absolute absolute cwd cwd']
  cases there : t.stat cwd ⟨Octets.text path⟩ with
  | error fault => simp only [bind, Except.bind]
  | ok here =>
    obtain ⟨number, node⟩ := here
    have known : t.node? number = some node := Tree.node?_of_stat sound working there
    cases entry : node.entry with
    | file content =>
      cases named : interpreter? content with
      | none => simp only [bind, Except.bind, entry, named]
      | some script =>
        have fromTop := scripts number node content _ _ known entry named
        simp only [bind, Except.bind, entry, named, same _ _ fromTop]
    | _ => simp only [bind, Except.bind, entry]

/-- A path from the top leads to the same program from everywhere. -/
theorem find_eq_of_absolute (sound : t.IsSound) (working : t.holdsDirectory cwd = true)
    (scripts : t.ScriptsFromTop) (absolute : (⟨Octets.text path⟩ : Path).isAbsolute = true) :
    find t cwd depth path args = find t cwd' depth path args := by
  induction depth generalizing path args with
  | zero => exact findBy_eq_of_absolute sound working scripts absolute fun _ _ _ => rfl
  | succ depth ih =>
    exact findBy_eq_of_absolute sound working scripts absolute fun _ _ fromTop => ih fromTop

end Executable

/-! ## Names and paths -/

namespace Setting

variable {s : Setting} {t : Tree} {cwd cwd' : Place} {path? : Option String} {name : String}
  {args : List Octets}

def SearchesFromTop (path? : Option String) : Prop :=
  ∀ dir ∈ (path?.getD "/bin:/usr/bin").splitOn ":", (⟨dir⟩ : Path).isAbsolute = true

private theorem isAbsolute_candidate {dir : String} (name : String)
    (absolute : (⟨dir⟩ : Path).isAbsolute = true) :
    (⟨Octets.text (Octets.ofText dir ++ "/" ++ Octets.ofText name)⟩ : Path).isAbsolute = true := by
  have separator : Octets.ofText "/" = "/" := Octets.ofText_of_ascii (by simp)
  have joined : Octets.ofText dir ++ "/" ++ Octets.ofText name =
      Octets.ofText (dir ++ ("/" ++ name)) := by
    rw [Octets.ofText_append, Octets.ofText_append, separator, String.append_assoc]
  rw [joined, Octets.text_ofText, Path.isAbsolute_append (Path.given_of_isAbsolute absolute), absolute]

private theorem search_cons (dir : String) (rest : List String) (name : Octets) (denied : Bool)
    (last : Fault) : search t cwd name args denied last (dir :: rest) =
      match Executable.find t cwd 5 (if dir = "" then name else Octets.ofText dir ++ "/" ++ name)
        args with
      | .ok executable => .ok executable
      | .error .accessDenied => search t cwd name args true .accessDenied rest
      | .error .notFound => search t cwd name args denied .notFound rest
      | .error .notDirectory => search t cwd name args denied .notDirectory rest
      | .error fault => .error fault := by
  rfl

private theorem search_eq (sound : t.IsSound) (working : t.holdsDirectory cwd = true)
    (scripts : t.ScriptsFromTop) {dirs : List String}
    (fromTop : ∀ dir ∈ dirs, (⟨dir⟩ : Path).isAbsolute = true) {denied : Bool} {last : Fault} :
    search t cwd (Octets.ofText name) args denied last dirs =
      search t cwd' (Octets.ofText name) args denied last dirs := by
  induction dirs generalizing denied last with
  | nil => rfl
  | cons dir rest ih =>
    obtain ⟨absolute, others⟩ := List.forall_mem_cons.1 fromTop
    let candidate := Octets.ofText dir ++ "/" ++ Octets.ofText name
    have same : Executable.find t cwd 5 candidate args = Executable.find t cwd' 5 candidate args :=
      Executable.find_eq_of_absolute sound working scripts (isAbsolute_candidate name absolute)
    rw [search_cons, search_cons, if_neg (Path.given_of_isAbsolute absolute), same]
    generalize Executable.find t cwd' 5 candidate args = found
    split <;> first | rfl | exact ih others

/-- A text with a separator is a path. -/
theorem find_of_separated (separated : '/' ∈ name.toList) :
    find t cwd path? name args = Executable.find t cwd 5 (Octets.ofText name) args := by
  have kept : '/' ∈ (Octets.ofText name).toList := (Octets.mem_ofText_iff (by decide)).2 separated
  have given : Octets.ofText name ≠ "" := by
    intro empty
    rw [empty] at kept
    cases kept
  rw [find, if_neg given, if_pos (List.contains_iff_mem.2 kept)]

/-- A text without one is a name, and searched for. -/
theorem find_of_bare (bare : '/' ∉ name.toList) : find t cwd path? name args =
    if Octets.ofText name = "" then .error .notFound
    else if 255 < (Octets.ofText name).length then .error .nameTooLong
    else search t cwd (Octets.ofText name) args false .notFound
      ((path?.getD "/bin:/usr/bin").splitOn ":") := by
  have none : ¬(Octets.ofText name).toList.contains '/' = true := by
    rwa [List.contains_iff_mem, Octets.mem_ofText_iff (by decide)]
  rw [find, if_neg none]

/-- What a bare name leads to is in one of the directories of the search path. -/
theorem exists_dir_of_search {dirs : List String} {denied : Bool} {last : Fault}
    {found : Executable}
    (h : search t cwd (Octets.ofText name) args denied last dirs = .ok found) :
    ∃ dir ∈ dirs, Executable.find t cwd 5 (if dir = "" then Octets.ofText name else
      Octets.ofText dir ++ "/" ++ Octets.ofText name) args = .ok found := by
  induction dirs generalizing denied last with
  | nil => cases h
  | cons dir rest ih =>
    have behind {denied : Bool} {last : Fault}
        (h : search t cwd (Octets.ofText name) args denied last rest = .ok found) :=
      (ih h).imp fun _ => And.imp_left (List.mem_cons_of_mem dir)
    rw [search_cons] at h
    split at h
    · rename_i here
      exact ⟨dir, List.mem_cons_self, here.trans h⟩
    · exact behind h
    · exact behind h
    · exact behind h
    · cases h

/-- The program is that of a name in one of the directories that are searched. -/
def IsInSearchPath (t : Tree) (cwd : Place) (path? : Option String) (name : String)
    (args : List Octets) (found : Executable) : Prop :=
  ∃ dir ∈ (path?.getD "/bin:/usr/bin").splitOn ":",
    Executable.find t cwd 5 (if dir = "" then Octets.ofText name else
      Octets.ofText dir ++ "/" ++ Octets.ofText name) args = .ok found

theorem isInSearchPath_of_find {found : Executable} (bare : '/' ∉ name.toList)
    (h : find t cwd path? name args = .ok found) : IsInSearchPath t cwd path? name args found := by
  rw [find_of_bare bare] at h
  split at h
  · cases h
  · split at h
    · cases h
    · exact exists_dir_of_search h

/-- A path from the top and a bare name lead to the same program from every directory. -/
theorem find_eq_of_isPlaced (sound : t.IsSound) (working : t.holdsDirectory cwd = true)
    (scripts : t.ScriptsFromTop) (fromTop : '/' ∉ name.toList → SearchesFromTop path?)
    (placed : (⟨name⟩ : Path).IsPlaced) :
    find t cwd path? name args = find t cwd' path? name args := by
  rcases placed with absolute | bare
  · have separated : '/' ∈ name.toList := Path.mem_chars_of_isAbsolute absolute
    rw [find_of_separated separated, find_of_separated separated]
    exact Executable.find_eq_of_absolute sound working scripts (by rwa [Octets.text_ofText])
  · rw [find_of_bare bare, find_of_bare bare, search_eq sound working scripts (fromTop bare)]

/-- A path with an idle piece at its end leads to no program. -/
theorem find_of_asksForDirectory (sound : t.IsSound) (working : t.holdsDirectory cwd = true)
    (separated : '/' ∈ name.toList) (asks : (⟨name⟩ : Path).AsksForDirectory) :
    ∃ fault, find t cwd path? name args = .error fault := by
  rw [find_of_separated separated]
  exact Executable.find_of_asksForDirectory sound working (by rwa [Octets.text_ofText])

/-- A text leads to the same program from every directory, or to none. -/
def LeadsAlike (t : Tree) (path? : Option String) (name : String) : Prop :=
  ∀ cwd cwd' args, t.holdsDirectory cwd = true → t.holdsDirectory cwd' = true →
    (find t cwd path? name args).toOption = (find t cwd' path? name args).toOption

theorem leadsAlike_of_isPlaced (sound : t.IsSound) (scripts : t.ScriptsFromTop)
    (fromTop : '/' ∉ name.toList → SearchesFromTop path?) (placed : (⟨name⟩ : Path).IsPlaced) :
    LeadsAlike t path? name := by
  intro cwd cwd' args working _
  rw [find_eq_of_isPlaced sound working scripts fromTop placed]

theorem leadsAlike_of_asksForDirectory (sound : t.IsSound) (separated : '/' ∈ name.toList)
    (asks : (⟨name⟩ : Path).AsksForDirectory) : LeadsAlike t path? name := by
  intro cwd cwd' args working working'
  obtain ⟨_, here⟩ := find_of_asksForDirectory sound working separated asks
  obtain ⟨_, there⟩ := find_of_asksForDirectory sound working' separated asks
  rw [here, there]
  rfl

/-- What a process is prepared to run is found from the directory it is to start in. -/
theorem find_of_prepare {launch : Launch} {state : State} {place : Place} {executable : Executable}
    (sound : state.tree.IsSound) (h : s.prepare launch state = .ok (place, executable)) :
    state.tree.holdsDirectory place = true ∧
      find state.tree place (s.ownBindings.lookup "PATH") launch.program.text
        ((launch.program.text :: launch.args).map Octets.ofText) = .ok executable := by
  rw [prepare] at h
  generalize List.any _ hasNul = nul at h
  cases nul with
  | true => cases h
  | false =>
    simp only [Bool.false_eq_true, if_false] at h
    cases located : state.tree.locate [] launch.directory with
    | error fault =>
      simp only [located, Bind.bind, Except.bind] at h
      cases h
    | ok found =>
      simp only [located, Bind.bind, Except.bind] at h
      split at h
      · rename_i directory
        split at h
        · cases h
        · rename_i ran
          cases h
          exact ⟨(Tree.isEnd_locate sound sound.top located).holdsDirectory directory, ran⟩
      · cases h
      · cases h

/-- No process is started for a path with an idle piece at its end. -/
theorem not_asksForDirectory_of_start {launch : Launch} {limitMs : Option Nat} {state : State}
    {process : Nat} (sound : state.tree.IsSound)
    (started : (s.start launch limitMs state).1 = .ok process)
    (separated : '/' ∈ launch.program.chars) : ¬launch.program.AsksForDirectory := by
  intro asks
  cases prepared : s.prepare launch state with
  | error fault =>
    simp only [start, prepared] at started
    cases started
  | ok found =>
    obtain ⟨place, executable⟩ := found
    obtain ⟨directory, ran⟩ := find_of_prepare sound prepared
    obtain ⟨fault, refused⟩ := find_of_asksForDirectory sound directory separated asks
    cases refused.symm.trans ran

end Setting

end AssetWatch.Host
