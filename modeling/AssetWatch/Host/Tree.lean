import AssetWatch.Path
import AssetWatch.Host.Fault

/-!
# File trees

A tree gives a node to a place, the list of names that leads there from the top; several
places may share a node. A path is walked piece by piece from a directory: `..` goes up from
where the walk has come to, a link is replaced by its target, at most forty times, and the
last piece may be missing, so that a walk also finds where a new file goes.
-/

namespace AssetWatch.Host

/-- The names that lead to an entry from the top directory. -/
abbrev Place := List String

inductive Device
  /-- reads as nothing and keeps nothing -/
  | null
  /-- reads as zeros without end -/
  | zero
  /-- refuses everything that is written -/
  | full
  deriving DecidableEq

inductive Entry
  | directory
  | file (content : ByteArray)
  | link (target : Path)
  | device (device : Device)

/-- What a place leads to: an entry, who may use it how, and when it was last written. -/
structure Node where
  entry : Entry
  mode : Nat
  modified : Nat := 0

/-- What may happen to a node. -/
inductive Happening
  | created
  | removed
  | movedFrom
  | movedTo
  | written
  /-- its mode, its times or its links -/
  | altered
  /-- the last place that led to it is gone -/
  | vanished
  | displaced
  deriving DecidableEq

/-- A happening, with who hears of it: the watchers of a directory, by a name in it, and those
of the node itself. -/
structure Incident where
  happening : Happening
  node : Nat
  isDirectory : Bool
  heardIn : Option (Nat × String)
  heardSelf : Bool

/-- Every place but the top, which is always node 0. The order of the places is the order in
which a directory is listed. The journal has the last incident in front. Names are texts in UTF-8.
Whoever uses a tree is privileged: modes tell which files may be run, and are never asked whether a
directory may be listed or searched. -/
structure Tree where
  places : List (Place × Nat) := []
  nodes : Array Node := #[⟨.directory, 0o755, 0⟩]
  /-- the time that changes are stamped with, in microseconds since the beginning of 1970 -/
  clock : Nat := 1750000000000000
  journal : List Incident := []

/-- Where a walk ended, and what is there. -/
structure Found where
  place : Place
  here? : Option (Nat × Node)

def Place.toPath (place : Place) : Path := ⟨"/" ++ String.intercalate "/" place⟩

def Entry.isDirectory : Entry → Bool
  | .directory => true
  | _ => false

namespace Found

def entry? (f : Found) : Option Entry := f.here?.map fun (_, node) => node.entry

/-- What was found, which must be there. -/
def here (f : Found) : Except Fault (Nat × Node) :=
  match f.here? with
  | some here => .ok here
  | none => .error .notFound

end Found

namespace Tree

def number? (t : Tree) : Place → Option Nat
  | [] => some 0
  | place => t.places.lookup place

def node? (t : Tree) (number : Nat) : Option Node := t.nodes[number]?

def entry? (t : Tree) (number : Nat) : Option Entry := (t.node? number).map Node.entry

def at? (t : Tree) (place : Place) : Option (Nat × Node) :=
  (t.number? place).bind fun number => (t.node? number).map fun node => (number, node)

/-- Names of a directory's entries. -/
def names (t : Tree) (dir : Place) : List String :=
  t.places.filterMap fun (place, _) =>
    match place.getLast? with
    | some name => if place.dropLast == dir then some name else none
    | none => none

def pieces (p : Path) : List String := (Path.pieces p.chars).map String.ofList

/-- What following pieces comes to before the next link is followed. -/
inductive Stride
  | found (found : Found)
  /-- a link in a directory, and the pieces behind it -/
  | link (dir : Place) (target : Path) (rest : List String)

/-- Follows the pieces from a directory up to the next link. With `follow`, a link at the end
counts as what it leads to. -/
def stride (t : Tree) (follow : Bool) (dir : Place) : List String → Except Fault Stride
  | [] => .ok (.found ⟨dir, t.at? dir⟩)
  | piece :: rest =>
    if piece = "" ∨ piece = "." then t.stride follow dir rest
    else if piece = ".." then t.stride follow dir.dropLast rest
    else if 255 < piece.utf8ByteSize then .error .nameTooLong
    else
      let place := dir ++ [piece]
      match t.at? place with
      | none => if rest.isEmpty then .ok (.found ⟨place, none⟩) else .error .notFound
      | some (number, node) =>
        match node.entry with
        | .directory => t.stride follow place rest
        | .link target =>
          if rest.isEmpty && !follow then .ok (.found ⟨place, some (number, node)⟩)
          else .ok (.link dir target rest)
        | _ =>
          if rest.isEmpty then .ok (.found ⟨place, some (number, node)⟩)
          else .error .notDirectory

/-- Follows the pieces from a directory, and at most so many links. -/
def walk (t : Tree) (follow : Bool) (links : Nat) (dir : Place) (todo : List String) :
    Except Fault Found :=
  match t.stride follow dir todo with
  | .error fault => .error fault
  | .ok (.found found) => .ok found
  | .ok (.link dir target rest) =>
    if target.text = "" then .error .notFound
    else match links with
      | 0 => .error .tooManyLinks
      | links + 1 =>
        t.walk follow links (if target.isAbsolute then [] else dir) (pieces target ++ rest)

/-- Where a path leads from the working directory `cwd`. -/
def locate (t : Tree) (cwd : Place) (p : Path) (follow : Bool := true) : Except Fault Found :=
  if p.chars.contains '\x00' then .error .nulInPath
  else if p.text = "" then .error .notFound
  else if 4096 ≤ p.text.utf8ByteSize then .error .nameTooLong
  else if !p.isAbsolute && (t.at? cwd).isNone then .error .notFound
  else t.walk follow 40 (if p.isAbsolute then [] else cwd) (pieces p)

/-- The node a path leads to, links followed. -/
def stat (t : Tree) (cwd : Place) (p : Path) : Except Fault (Nat × Node) := do
  (← t.locate cwd p).here

/-- Something is there, links followed. -/
def isThere (t : Tree) (cwd : Place) (p : Path) : Bool := (t.stat cwd p).toOption.isSome

def isDirectory (t : Tree) (cwd : Place) (p : Path) : Bool :=
  match t.stat cwd p with
  | .ok (_, ⟨.directory, _, _⟩) => true
  | _ => false

/-- A regular file, links followed. -/
def isFile (t : Tree) (cwd : Place) (p : Path) : Bool :=
  match t.stat cwd p with
  | .ok (_, ⟨.file _, _, _⟩) => true
  | _ => false

/-- The absolute path without links, `.` and `..` of something that exists. -/
def canonical (t : Tree) (cwd : Place) (p : Path) : Except Fault Path := do
  let found ← t.locate cwd p
  match found.here? with
  | some _ => .ok found.place.toPath
  | none => .error .notFound

def read (t : Tree) (cwd : Place) (p : Path) : Except Fault ByteArray := do
  match (← t.stat cwd p).2.entry with
  | .file content => .ok content
  | .device _ => .ok ByteArray.empty
  | _ => .error .isDirectory

def readText (t : Tree) (cwd : Place) (p : Path) : Except Fault String := do
  match String.fromUTF8? (← t.read cwd p) with
  | some text => .ok text
  | none => .error .notUtf8

/-- Names of the entries of the directory a path leads to. -/
def list (t : Tree) (cwd : Place) (p : Path) : Except Fault (List String) := do
  let found ← t.locate cwd p
  match (← found.here).2.entry with
  | .directory => .ok (t.names found.place)
  | _ => .error .notDirectory

/-- Every file and link under a directory, relative to it, in byte order. -/
def filesUnder (t : Tree) (dir : Place) : List String :=
  let relative := t.places.filterMap fun (place, number) =>
    match t.node? number with
    | some ⟨.directory, _, _⟩ | none => none
    | some _ =>
      if dir.isPrefixOf place then some (String.intercalate "/" (place.drop dir.length)) else none
  relative.mergeSort (· ≤ ·)

end Tree

end AssetWatch.Host
