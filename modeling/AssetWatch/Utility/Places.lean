import AssetWatch.Utility.Input
import AssetWatch.Utility.Mode

/-!
# Paths and directories for utilities

The pieces of paths as utilities take them, and the ways in which operands name a target.
-/

namespace AssetWatch.Utility

open Host (Call Edit Fault Kind Status)

/-! ## Pieces of paths -/

def dropSlashes (path : Octets) : Octets :=
  String.ofList (path.toList.reverse.dropWhile (· = '/')).reverse

/-- The last piece of a path. -/
def lastPiece (path : Octets) : Octets :=
  let bare := dropSlashes path
  if bare = "" then if path = "" then "" else "/"
  else (bare.splitOn "/").getLastD bare

/-- What stands in front of the last piece. -/
def folderOf (path : Octets) : Octets :=
  let bare := dropSlashes path
  if bare = "" then if path = "" then "." else "/"
  else
    let pieces := bare.splitOn "/"
    if pieces.length = 1 then "."
    else
      let front := dropSlashes (String.intercalate "/" pieces.dropLast)
      if front = "" then "/" else front

def within (folder name : Octets) : Octets :=
  if folder.endsWith "/" then folder ++ name else s!"{folder}/{name}"

/-- The paths of a path's folders and of itself, from the top. -/
def stages (path : Octets) : List Octets :=
  let pieces := (path.splitOn "/").filter (· ≠ "")
  let front := if path.startsWith "/" then "/" else ""
  (List.range pieces.length).map fun n =>
    front ++ String.intercalate "/" (pieces.take (n + 1))

/-- A path without `.`, `..` and doubled separators, seen from the top. -/
def straight (path : Octets) : Octets :=
  let step (taken : List Octets) (piece : Octets) : List Octets :=
    if piece = "" || piece = "." then taken
    else if piece = ".." then taken.drop 1 else piece :: taken
  "/" ++ String.intercalate "/" ((path.splitOn "/").foldl step []).reverse

/-- A path to a place, seen from a directory; both from the top. -/
def pathFrom (base path : Octets) : Octets :=
  let split (p : Octets) : List Octets := (p.splitOn "/").filter (· ≠ "")
  let rec go : List Octets → List Octets → List Octets
    | a :: as, b :: bs => if a = b then go as bs else ((a :: as).map fun _ => "..") ++ b :: bs
    | as, bs => as.map (fun _ => "..") ++ bs
  let pieces := go (split base) (split path)
  if pieces.isEmpty then "." else String.intercalate "/" pieces

/-! ## Changing the tree -/

def edit (e : Edit) : Tool (Except Fault Unit) := Tool.ask (.edit e)

/-- Makes a directory and those above it that are missing; `tell` is told of each. -/
def makeFolders (mode : Nat) (tell : Octets → Tool Unit) :
    List Octets → Tool (Except (Octets × Fault) Unit)
  | [] => pure (.ok ())
  | stage :: rest => do
    match ← edit (.makeDirectory stage (if rest.isEmpty then mode else 0o777)) with
    | .ok _ =>
      tell stage
      makeFolders mode tell rest
    | .error fault =>
      if ← Tool.isDirectory stage then makeFolders mode tell rest
      else
        let isThere := (← Tool.statusOf? stage true).isSome
        let fault := if fault = .exists && !rest.isEmpty && isThere then .notDirectory else fault
        return .error (stage, fault)

/-! ## Targets -/

/-- Where things go: into a directory, or to one path. -/
inductive Goal
  | into (folder : Octets) (sources : List Octets)
  | onto (source target : Octets)

/-- Where the operands say that things go. -/
def goalOf (found : List Given) (operands : List Octets) : Tool Goal := do
  let missing : Tool Goal := match operands with
    | [] => Tool.misuse "missing file operand"
    | source :: _ => Tool.misuse s!"missing destination file operand after {quoteName source}"
  let refuse (what path : Octets) : Tool Unit := do
    match ← Tool.ask (.status path true) with
    | .ok st =>
      if st.kind ≠ .directory then Tool.fail s!"{what} {quoteName path}: Not a directory"
    | .error fault => Tool.fail s!"{what} {quoteName path}: {fault.text}"
  match Given.value? found "t" with
  | some folder =>
    if operands.isEmpty then return ← missing
    refuse "target directory" folder
    return .into folder operands
  | none =>
    match operands with
    | [] | [_] => missing
    | [source, target] =>
      if !Given.has found "T" && (← Tool.isDirectory target) then return .into target [source]
      else return .onto source target
    | first :: second :: third :: rest =>
      let all := first :: second :: third :: rest
      if Given.has found "T" then Tool.misuse s!"extra operand {quoteName third}"
      let folder := all.getLastD ""
      refuse "target" folder
      return .into folder all.dropLast

/-- The sources with their targets. -/
def Goal.pairs : Goal → List (Octets × Octets)
  | .into folder sources => sources.map fun s => (s, within folder (lastPiece s))
  | .onto source target => [(source, target)]

def isSame (a b : Octets) : Tool Bool := do
  match ← Tool.statusOf? a true, ← Tool.statusOf? b true with
  | some s, some t => return s.number = t.number
  | _, _ => return false

end AssetWatch.Utility
