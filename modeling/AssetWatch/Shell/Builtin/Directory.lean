import AssetWatch.Shell.Builtin.Basic

/-!
# The directory of the shell

The shell keeps the path by which it came to its directory, with links in it as they were
named; `..` takes off a piece of this path.
-/

namespace AssetWatch.Shell.Builtin

/-- A path without `.`, `..` and doubled separators, seen from a directory. -/
def logicalPath (directory path : Octets) : Octets :=
  let base := if path.startsWith "/" then [] else pieces directory
  let walk (taken : List Octets) (piece : Octets) : List Octets :=
    if piece = "." then taken
    else if piece = ".." then taken.drop 1
    else piece :: taken
  let front := if path.startsWith "//" && !path.startsWith "///" then "//" else "/"
  front ++ String.intercalate "/" ((pieces path).foldl walk base.reverse).reverse
where
  pieces (path : Octets) : List Octets := (path.splitOn "/").filter (· ≠ "")

def physicalPath : Sh Octets := do
  match ← Sh.ask .directory with
  | .ok path => return path
  | .error _ => return ""

/-- The directory as the shell knows it. -/
def currentPath : Sh Octets := do return (← get).directory

/-- Goes to a directory, and tells whether this was possible. -/
def enter (physical : Bool) (path : Octets) : Sh Bool := do
  let old ← currentPath
  let target := if physical || (old = "" && !path.startsWith "/") then path
    else logicalPath old path
  match ← Sh.ask (.enter target) with
  | .error _ => return false
  | .ok _ =>
    let new ← if physical || target = path && !path.startsWith "/" then physicalPath
      else pure target
    modify fun s => { s with directory := new }
    setVariable "OLDPWD" old true
    setVariable "PWD" new true
    return true

/-- Goes to the first of the paths that is a directory; the flag tells that the path is to be
shown. -/
def enterAmong (physical : Bool) : List (Octets × Bool) → Sh (Option Bool)
  | [] => pure none
  | (path, shown) :: rest => do
    match ← Sh.ask (.status path true) with
    | .ok { kind := .directory, .. } =>
      return if ← enter physical path then some shown else none
    | _ => enterAmong physical rest

/-- The paths that a directory may have, by the search path for directories. -/
def directoriesFor (s : State) (path : Octets) : List (Octets × Bool) :=
  match s.get? "CDPATH" with
  | none => []
  | some all => (all.splitOn ":").map fun dir =>
    if dir = "" then (path, false) else (s!"{dir}/{path}", true)

def changeDirectory (words : List Octets) : Sh Nat := do
  let (found, operands) ← readOptions "LP" words
  let physical := (found.getLast?.map (·.1)) == some 'P'
  let s ← get
  let (path, shown) := match operands with
    | [] => (s.get "HOME", false)
    | "-" :: _ => (s.get "OLDPWD", true)
    | path :: _ => (path, false)
  let firstPiece := (path.splitOn "/").headD ""
  let isDirect := path.startsWith "/" || firstPiece = "." || firstPiece = ".."
  let path := if path = "" then "." else path
  let reached ←
    if isDirect then pure none else enterAmong physical (directoriesFor s path)
  let shown ← match reached with
    | some also => pure (shown || also)
    | none =>
      if !(← enter physical path) then Sh.fail s!"can't cd to {path}"
      pure shown
  if shown then print ((← currentPath) ++ "\n") else return 0

def printDirectory (words : List Octets) : Sh Nat := do
  let (found, _) ← readOptions "LP" words
  let physical := (found.getLast?.map (·.1)) == some 'P'
  let path ← if physical then physicalPath else currentPath
  print (path ++ "\n")

def directory : List Builtin := [
  { name := "cd", run := fun _ => changeDirectory },
  { name := "chdir", run := fun _ => changeDirectory },
  { name := "pwd", run := fun _ => printDirectory }]

end AssetWatch.Shell.Builtin
