import AssetWatch.Config.Record
import AssetWatch.Host.Tree

/-!
# Matching changed paths with categories

A category is affected by a change under one of its watched folders or under its entrypoint
folder. A folder that exists is known by two paths, as it is spelled and without links, for
a change may be reported under either. The folders to be watched are those that lie under no
other: a folder is watched with everything in it.
-/

namespace AssetWatch

open Host (Tree Place)

/-- Folders with the category each belongs to, in order of their construction. -/
structure Matcher where
  folders : List (Path × String)

namespace Matcher

/-- The paths by which a folder is known: the one without links in front, if it differs. -/
def spellings (tree : Tree) (cwd : Place) (root folder : Path) : List Path :=
  let joined := root.join folder
  match tree.canonical cwd joined with
  | .ok canonical => if canonical.sameAs joined then [joined] else [canonical, joined]
  | .error _ => [joined]

/-- All folders of the targets, the watched ones first. -/
def ofTargets (tree : Tree) (cwd : Place) (root : Path) (targets : Targets) : Matcher :=
  let known (category : String) (folder : Path) : List (Path × String) :=
    (spellings tree cwd root folder).map fun path => (path, category)
  ⟨(targets.watch.toList.flatMap fun (category, folders) => folders.flatMap (known category)) ++
    targets.entrypointFolders.toList.flatMap fun (category, folder) => known category folder⟩

/-- The categories affected by a change of a path. -/
def categoriesFor (m : Matcher) (path : Path) : NameSet :=
  .ofList ((m.folders.filter fun (folder, _) => path.startsWith folder).map (·.2))

/-- Leaves out every path that lies under one that is kept before it. -/
def dropNested (kept : List Path) : List Path → List Path
  | [] => kept
  | path :: rest =>
    if kept.any path.startsWith then dropNested kept rest else dropNested (kept ++ [path]) rest

/-- The folders to watch, in path order. -/
def watchRoots (m : Matcher) : List Path :=
  let paths : PathSet := .ofList (m.folders.map (·.1))
  dropNested [] paths.toList

end Matcher

end AssetWatch
