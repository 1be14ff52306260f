import AssetWatch.Host.Tree
import AssetWatch.Watch.Event

/-!
# Observing folders

The system watches nodes, not paths: a watch hears what happens to the names in a folder, and
some of what happens to the folder itself. An observation remembers the path by which it came
to each node and reports what happens under that path, even when the node has moved since; a
node reached by several paths is reported under the last of them.

A folder is observed with everything in it, also behind links, and folders that appear in it
are observed from then on. What was there before its folder was observed is not reported.
-/

namespace AssetWatch

open Host (Tree Place Incident Happening)

/-- The watch that the system keeps on a node. -/
structure NodeWatch where
  number : Nat
  node : Nat
  /-- whether removing and moving the node itself is heard -/
  hearsSelf : Bool

/-- A path that is known to be watched. -/
structure WatchedPath where
  path : Path
  watch : Nat
  hearsSelf : Bool
  /-- folders that appear in it are observed, too -/
  isDeep : Bool

structure Observation where
  watches : List NodeWatch := []
  /-- the paths under which watches report -/
  paths : List (Nat × Path) := []
  known : List WatchedPath := []
  /-- the number of the next watch; none is used twice -/
  next : Nat := 1

namespace Observation

def known? (o : Observation) (path : Path) : Option WatchedPath :=
  o.known.find? (·.path.sameAs path)

def watchOn? (o : Observation) (node : Nat) : Option NodeWatch :=
  o.watches.find? (·.node == node)

/-- The path under which a watch reports. -/
def path? (o : Observation) (watch : Nat) : Option Path := o.paths.lookup watch

def forget (o : Observation) (path : Path) : Observation :=
  { o with known := o.known.filter fun k => !k.path.sameAs path }

/-! ## Beginning to watch -/

/-- Watches the node of a path. A path that is known keeps what it hears. -/
def addNode (o : Observation) (path : Path) (node : Nat) (isDeep hearsSelf : Bool) : Observation :=
  let hearsSelf := hearsSelf || ((o.known? path).map (·.hearsSelf)).getD false
  let joins := (o.known? path).isSome
  let (watch, o) : NodeWatch × Observation := match o.watchOn? node with
    | some w =>
      let w := { w with hearsSelf := hearsSelf || (joins && w.hearsSelf) }
      (w, { o with watches := o.watches.map fun v => if v.number == w.number then w else v })
    | none =>
      let w : NodeWatch := { number := o.next, node, hearsSelf }
      (w, { o with watches := o.watches ++ [w], next := o.next + 1 })
  let o := o.forget path
  { o with
    known := o.known ++ [{ path, watch := watch.number, hearsSelf, isDeep }]
    paths := o.paths.filter (·.1 != watch.number) ++ [(watch.number, path)] }

/-- The folders under a path, links followed but not back to where they lie in. -/
def foldersUnder (t : Tree) : (depth : Nat) → (above : List Nat) → Path → Place → List (Path × Nat)
  | 0, _, _, _ => []
  | depth + 1, above, path, place =>
    match t.at? place with
    | some (number, ⟨.directory, _, _⟩) =>
      if above.contains number then []
      else
        let inner := (t.names place).flatMap fun name =>
          match t.walk true 40 place [name] with
          | .ok found => foldersUnder t depth (number :: above) (path.join ⟨name⟩) found.place
          | .error _ => []
        (path, number) :: inner
    | _ => []

/-- How deep folders are followed. -/
def depthLimit : Nat := 256

/-- Observes a path: a folder with all folders in it, or a file. -/
def addDeep (o : Observation) (t : Tree) (cwd : Place) (path : Path) (hearsSelf : Bool) :
    Observation :=
  match (t.locate cwd path).toOption with
  | some { place, here? := some (number, node) } =>
    if node.entry.isDirectory then
      match foldersUnder t depthLimit [] path place with
      | (path, number) :: inner =>
        inner.foldl (fun o (path, number) => o.addNode path number true false)
          (o.addNode path number true hearsSelf)
      | [] => o
    else o.addNode path number false true
  | _ => o

/-- Begins to observe folders; one that is missing is passed over. -/
def start (t : Tree) (cwd : Place) (roots : List Path) : Observation :=
  roots.foldl (fun o root => o.addDeep t cwd root true) {}

/-- Begins to observe the names in one folder. -/
def startFlat (t : Tree) (cwd : Place) (folder : Path) : Except Host.Fault Observation := do
  let (number, _) ← t.stat cwd folder
  return ({} : Observation).addNode folder number false true

/-! ## Ceasing to watch -/

/-- Takes watches back, until one of them has ended by itself. -/
def dropWatches (o : Observation) : List (Nat × Path) → Observation
  | [] => o
  | (watch, path) :: rest =>
    if o.watches.any (·.number == watch) then
      let o := { o with
        watches := o.watches.filter (·.number != watch)
        paths := o.paths.filter (·.1 != watch) }
      (o.forget path).dropWatches rest
    else o

/-- Takes back the watch of a path, and with it those of all paths below. -/
def dropPath (o : Observation) (path : Path) : Observation :=
  match o.known? path with
  | none => o
  | some k =>
    let below := o.paths.filter fun (watch, p) => watch != k.watch && p.startsWith path
    (o.forget path).dropWatches ((k.watch, path) :: below)

/-! ## Hearing -/

/-- What is reported of a happening, and what is to be observed differently because of it. -/
structure Notice where
  events : List FileEvent := []
  /-- paths whose watches are taken back -/
  gone : List Path := []
  /-- folders that are observed from now on -/
  added : List Path := []

def kindOf : Happening → EventKind
  | .created => .create
  | .removed | .vanished => .remove
  | .movedFrom | .movedTo | .written | .altered | .displaced => .modify

/-- What follows when something has happened under a path. -/
def noticeOf (o : Observation) (i : Incident) (path : Path) : Notice :=
  let event : FileEvent := { kind := kindOf i.happening, paths := [path] }
  let gone := if (o.known? path).isSome then [path] else []
  let isDeep := ((path.parent?.bind o.known?).map (·.isDeep)).getD false
  let added := if i.isDirectory && isDeep then [path] else []
  match i.happening with
  | .created | .movedTo => { events := [event], added }
  | .removed | .movedFrom | .vanished => { events := [event], gone }
  | .written | .altered | .displaced => { events := [event] }

/-- What the watchers of a folder learn of a name in it. -/
def noticeIn (o : Observation) (i : Incident) : Notice :=
  match i.heardIn.bind fun (folder, name) => (o.watchOn? folder).map fun w => (w, name) with
  | some (w, name) => ((o.path? w.number).map fun p => o.noticeOf i (p.join ⟨name⟩)).getD {}
  | none => {}

/-- What the watcher of a node learns. -/
def noticeSelf (o : Observation) (i : Incident) : Notice :=
  let isQuiet (w : NodeWatch) : Bool :=
    !w.hearsSelf && (i.happening = .vanished || i.happening = .displaced)
  match if i.heardSelf then o.watchOn? i.node else none with
  | some w =>
    if isQuiet w then {} else ((o.path? w.number).map (o.noticeOf i)).getD {}
  | none => {}

/-- The watch of a node that is gone ends by itself. -/
def endWatch (o : Observation) (i : Incident) : Observation :=
  if i.happening = .vanished then { o with watches := o.watches.filter (·.node != i.node) }
  else o

/-- What is reported of incidents, the first in front, and the observation after them. -/
def hear (o : Observation) (t : Tree) (cwd : Place) (incidents : List Incident) :
    List FileEvent × Observation :=
  let step : List Notice × Observation → Incident → List Notice × Observation :=
    fun (notices, o) i => (notices ++ [o.noticeIn i, o.noticeSelf i], o.endWatch i)
  let (notices, o) := incidents.foldl step ([], o)
  let o := (notices.flatMap Notice.gone).foldl dropPath o
  let o := (notices.flatMap Notice.added).foldl (fun o path => o.addDeep t cwd path false) o
  (notices.flatMap Notice.events, o)

end Observation

end AssetWatch
