import AssetWatch.Host.Tree

/-!
# Changes of file trees

Every change is noted in the journal of the tree: in the directory that it happens in, and
with the node that it happens to. A node that no place leads to any more stays, so that what
has it open can go on.
-/

namespace AssetWatch.Host.Tree

/-! ## Notes -/

def note (t : Tree) (i : Incident) : Tree := { t with journal := i :: t.journal }

def isDirectoryNode (t : Tree) (number : Nat) : Bool :=
  match t.node? number with
  | some ⟨.directory, _, _⟩ => true
  | _ => false

/-- Notes what happens to a name in a directory. -/
def noteName (t : Tree) (happening : Happening) (place : Place) (number : Nat) : Tree :=
  match place.getLast?, t.number? place.dropLast with
  | some name, some folder => t.note
    { happening, node := number, isDirectory := t.isDirectoryNode number
      heardIn := some (folder, name), heardSelf := false }
  | _, _ => t

/-- Notes what only the watchers of a node hear. -/
def noteSelf (t : Tree) (happening : Happening) (number : Nat) : Tree := t.note
  { happening, node := number, isDirectory := t.isDirectoryNode number
    heardIn := none, heardSelf := true }

/-- Notes what happens to a node, also where a place leads to it. -/
def noteNode (t : Tree) (happening : Happening) (number : Nat) : Tree :=
  let heardIn := (t.places.find? (·.2 == number)).bind fun (place, _) =>
    match place.getLast?, t.number? place.dropLast with
    | some name, some folder => some (folder, name)
    | _, _ => none
  t.note
    { happening, node := number, isDirectory := t.isDirectoryNode number
      heardIn, heardSelf := true }

/-! ## Nodes -/

def changeNode (t : Tree) (number : Nat) (f : Node → Node) : Tree :=
  { t with nodes := t.nodes.modify number f }

/-- A directory's time changes with its entries. -/
def touchFolder (t : Tree) (place : Place) : Tree :=
  match t.number? place.dropLast with
  | some folder => t.changeNode folder fun node => { node with modified := t.clock }
  | none => t

/-- Puts a new node at a place where nothing is, and gives its number. -/
def create (t : Tree) (place : Place) (entry : Entry) (mode : Nat) : Nat × Tree :=
  let number := t.nodes.size
  let t := { t with
    places := t.places ++ [(place, number)]
    nodes := t.nodes.push { entry, mode, modified := t.clock } }
  (number, (t.touchFolder place).noteName .created place number)

def setContent (t : Tree) (number : Nat) (content : ByteArray) : Tree :=
  (t.changeNode number fun node => { node with entry := .file content, modified := t.clock }).noteNode
    .written number

def setMode (t : Tree) (number mode : Nat) : Tree :=
  (t.changeNode number fun node => { node with mode }).noteNode .altered number

def setTime (t : Tree) (number time : Nat) : Tree :=
  (t.changeNode number fun node => { node with modified := time }).noteNode .altered number

/-- How many places lead to a node. -/
def linkCount (t : Tree) (number : Nat) : Nat := t.places.countP (·.2 == number)

/-- Notes that a place less leads to a node. -/
def noteLoss (t : Tree) (number : Nat) : Tree :=
  let t := if t.isDirectoryNode number then t else t.noteSelf .altered number
  if t.linkCount number = 0 then t.noteSelf .vanished number else t

/-- Takes away what is at a place, which has nothing under it. -/
def unlink (t : Tree) (place : Place) (number : Nat) : Tree :=
  let t := { t with places := t.places.filter (·.1 != place) }
  ((t.touchFolder place).noteName .removed place number).noteLoss number

/-! ## Requests -/

/-- The path without separators at its end, for an entry that is made. -/
def bare (p : Path) : Path :=
  if p.chars.all (· = '/') then p
  else ⟨String.ofList (p.chars.reverse.dropWhile (· = '/')).reverse⟩

/-- Where something new goes. -/
def vacancy (t : Tree) (cwd : Place) (p : Path) : Except Fault Place := do
  let found ← t.locate cwd p false
  match found.here? with
  | none => .ok found.place
  | some _ => .error .exists

def makeDirectory (t : Tree) (cwd : Place) (p : Path) (mode : Nat := 0o755) :
    Except Fault Tree := do
  return (t.create (← t.vacancy cwd (bare p)) .directory mode).2

/-- Creates a directory and those above it that are missing. -/
def makeDirectories (t : Tree) (cwd : Place) (p : Path) : Except Fault Tree := do
  let start : Place := if p.isAbsolute then [] else cwd
  let step : Tree × Place → String → Except Fault (Tree × Place) := fun (t, dir) piece => do
    let found ← t.walk true 40 dir [piece]
    match found.entry? with
    | some .directory => .ok (t, found.place)
    | some _ => .error .exists
    | none => .ok ((t.create found.place .directory 0o755).2, found.place)
  return (← (pieces p).foldlM step (t, start)).1

/-- Writes a file anew. Its mode stays as it was unless one is given. -/
def write (t : Tree) (cwd : Place) (p : Path) (content : ByteArray) (mode? : Option Nat := none) :
    Except Fault Tree := do
  let found ← t.locate cwd p
  let (number, t) ← match found.here? with
    | none => pure (t.create found.place (.file ByteArray.empty) 0o644)
    | some (number, ⟨.file _, _, _⟩) => pure (number, t.setContent number ByteArray.empty)
    | some (number, ⟨.device _, _, _⟩) => pure (number, t)
    | some _ => throw .isDirectory
  let t := if content.isEmpty then t else t.setContent number content
  return match mode? with
    | some mode => t.setMode number mode
    | none => t

/-- Creates a link where nothing is yet. -/
def link (t : Tree) (cwd : Place) (p target : Path) : Except Fault Tree := do
  if target.text = "" then throw .notFound
  return (t.create (← t.vacancy cwd p) (.link target) 0o777).2

/-- Lets another place lead to a file. -/
def share (t : Tree) (cwd : Place) (source target : Path) : Except Fault Tree := do
  let (number, node) ← (← t.locate cwd source false).here
  if node.entry.isDirectory then throw .notPermitted
  let place ← t.vacancy cwd target
  let t := { t with places := t.places ++ [(place, number)] }
  return ((t.touchFolder place).noteSelf .altered number).noteName .created place number

/-- Removes a file or a link. -/
def removeFile (t : Tree) (cwd : Place) (p : Path) : Except Fault Tree := do
  let found ← t.locate cwd p false
  let (number, node) ← found.here
  if node.entry.isDirectory then throw .isDirectory
  return t.unlink found.place number

/-- The last piece of a path, where it is `.` or `..`. -/
def endsIdle (p : Path) : Option String :=
  match ((pieces p).filter (· ≠ "")).getLast? with
  | some "." => some "."
  | some ".." => some ".."
  | _ => none

/-- Removes a directory with nothing in it. -/
def removeDirectory (t : Tree) (cwd : Place) (p : Path) : Except Fault Tree := do
  if endsIdle p = some "." then throw .invalid
  if endsIdle p = some ".." then throw .notEmpty
  let found ← t.locate cwd (bare p) false
  let (number, node) ← found.here
  if !node.entry.isDirectory then throw .notDirectory
  if !(t.names found.place).isEmpty then throw .notEmpty
  return t.unlink found.place number

/-- Removes a file, a link, or a directory with everything in it, what lies deepest first. -/
def remove (t : Tree) (cwd : Place) (p : Path) : Except Fault Tree := do
  let found ← t.locate cwd p false
  let (number, _) ← found.here
  let inside := t.places.filter fun (place, _) =>
    found.place.isPrefixOf place && place != found.place
  let deepest := inside.mergeSort fun a b => b.1.length ≤ a.1.length
  let t := deepest.foldl (fun t (place, number) => t.unlink place number) t
  return t.unlink found.place number

/-- Whether one entry may be moved over another. -/
def checkOver (t : Tree) (isDirectory : Bool) (target : Found) : Except Fault Unit :=
  match target.entry? with
  | none => .ok ()
  | some .directory =>
    if !isDirectory then .error .isDirectory
    else if (t.names target.place).isEmpty then .ok ()
    else .error .notEmpty
  | some _ => if isDirectory then .error .notDirectory else .ok ()

/-- Moves an entry, with everything under it, to another place, over a file or an empty
directory that is there. -/
def rename (t : Tree) (cwd : Place) (source target : Path) : Except Fault Tree := do
  if (endsIdle source).isSome || (endsIdle target).isSome then throw .invalid
  let old ← t.locate cwd (bare source) false
  let new ← t.locate cwd (bare target) false
  let (number, node) ← old.here
  if old.place.isEmpty || new.place.isEmpty then throw .invalid
  if (new.here?.map (·.1)) == some number then return t
  if node.entry.isDirectory && old.place.isPrefixOf new.place then throw .invalid
  t.checkOver node.entry.isDirectory new
  let kept := t.places.filter (·.1 != new.place)
  let move : Place × Nat → Place × Nat := fun (place, n) =>
    (if old.place.isPrefixOf place then new.place ++ place.drop old.place.length else place, n)
  let t := (t.noteName .movedFrom old.place number).touchFolder old.place
  let t := { t with places := kept.map move }
  let t := (t.noteName .movedTo new.place number).touchFolder new.place
  let t := match new.here? with
    | some (lost, _) => t.noteLoss lost
    | none => t
  return t.noteSelf .displaced number

/-- The journal so far, the first incident in front, and the tree without it. -/
def takeJournal (t : Tree) : List Incident × Tree :=
  (t.journal.reverse, { t with journal := [] })

end AssetWatch.Host.Tree
