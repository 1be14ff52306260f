import AssetWatch.Host.Tree
import AssetWatch.Targets.Entrypoint

/-!
# Discovering entrypoints

The entrypoints of a category are the regular files in its folder, links followed, whose
names begin with neither `.` nor `_`, in path order. Categories are read in the order they
are asked for, and the first that cannot be read decides the error.
-/

namespace AssetWatch

open Host (Tree Place)

inductive DiscoveryError
  | missingFolder (category : String) (path : Path)
  | unknownCategory (category : String)
  | unreadable (path : Path) (fault : Host.Fault)

namespace DiscoveryError

def message : DiscoveryError → String
  | .missingFolder category path =>
    s!"entrypoint folder {path.quoted} for category '{category}' does not exist"
  | .unknownCategory category => s!"category '{category}' is not configured"
  | .unreadable path fault => s!"failed to read {path.quoted}: {fault.message}"

end DiscoveryError

/-- Names that stand for files of their own; the others are parts of such files, or hidden. -/
def Entrypoint.isName (name : String) : Bool :=
  match name.toList.head? with
  | some c => c ≠ '.' && c ≠ '_'
  | none => true

namespace Targets

/-- The entrypoints among the names in a folder, in path order. -/
def entrypoints (isFile : Path → Bool) (category : String) (folder : Path) (names : List String) :
    List Entrypoint :=
  let found := names.filter fun name => Entrypoint.isName name && isFile ⟨name⟩
  (found.map fun name => { category, folder, path := folder.join ⟨name⟩ : Entrypoint }).mergeSort
    fun a b => ¬b.path.key < a.path.key

/-- The entrypoints of one category, in path order. -/
def discover (tree : Tree) (cwd : Place) (root : Path) (category : String) (folder : Path) :
    Except DiscoveryError (List Entrypoint) :=
  let dir := root.join folder
  if !tree.isDirectory cwd dir then .error (.missingFolder category dir)
  else match tree.list cwd dir with
    | .error fault => .error (.unreadable dir fault)
    | .ok names =>
      .ok (entrypoints (fun name => tree.isFile cwd (dir.join name)) category folder names)

/-- The entrypoints of several categories, in the order the categories are given. -/
def discoverAll (tree : Tree) (cwd : Place) (root : Path) (targets : Targets) :
    List String → Except DiscoveryError (List Entrypoint)
  | [] => .ok []
  | category :: rest => do
    match targets.entrypointFolders.get? category with
    | none => .error (.unknownCategory category)
    | some folder =>
      let found ← discover tree cwd root category folder
      return found ++ (← discoverAll tree cwd root targets rest)

end Targets

end AssetWatch
