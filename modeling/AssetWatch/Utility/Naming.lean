import AssetWatch.Utility.Places

/-!
# Names of places

The parts of paths, and the paths without links that they come to.
-/

namespace AssetWatch.Utility

open Host (Fault)

def ending (found : List Given) : Octets := if Given.has found "z" then "\x00" else "\n"

/-- A name without a suffix, unless it is nothing else. -/
def dropSuffix (suffix name : Octets) : Octets :=
  if suffix ≠ "" && name ≠ suffix && name.endsWith suffix then (name.dropEnd suffix.length).toString
  else name

def basename (words : List Octets) : Tool Unit := do
  let (found, operands) ← Options.read {
    letters := "as:z", long := [("multiple", 'a'), ("suffix", 's'), ("zero", 'z')]
    inFront := true } words
  let tell (suffix path : Octets) : Tool Unit :=
    Tool.print (dropSuffix suffix (lastPiece path) ++ ending found)
  if operands.isEmpty then Tool.misuse "missing operand"
  if Given.has found "a" || Given.has found "s" then
    for path in operands do
      tell ((Given.value? found "s").getD "") path
  else match operands with
    | _ :: _ :: extra :: _ => Tool.misuse s!"extra operand {quoteName extra}"
    | [path, suffix] => tell suffix path
    | path :: _ => tell "" path
    | [] => pure ()

def dirname (words : List Octets) : Tool Unit := do
  let (found, operands) ← Options.read { letters := "z", long := [("zero", 'z')] } words
  if operands.isEmpty then Tool.misuse "missing operand"
  for path in operands do
    Tool.print (folderOf path ++ ending found)

def pwd (words : List Octets) : Tool Unit := do
  let (found, _) ← Options.read {
    letters := "LP", long := [("logical", 'L'), ("physical", 'P')] } words
  let here ← Tool.ask .directory
  let named := ((← get).bindings.lookup "PWD").getD ""
  match here with
  | .error fault => Tool.fail s!"cannot find directory: {fault.text}"
  | .ok here =>
    let isLogical := ((Given.last? found ["L", "P"]).map (·.name == "L")).getD false
    let canUse := named.startsWith "/" && straight named = named
    Tool.printLine (if isLogical && canUse && (← isSame named here) then named else here)

/-! ## Paths without links -/

/-- What of a path has to be there. -/
inductive Need
  | all
  | folder
  | nothing
  deriving DecidableEq

/-- The path without links that a path comes to. -/
def resolve (need : Need) : (fuel : Nat) → Octets → Tool (Except Fault Octets)
  | 0, _ => pure (.error .tooManyLinks)
  | fuel + 1, path => do
    match ← Tool.ask (.canonical path) with
    | .ok found =>
      if path.endsWith "/" && need ≠ .nothing && !(← Tool.isDirectory path) then
        return .error .notDirectory
      return .ok found
    | .error fault =>
      let isUsable := need = .nothing || (need = .folder && fault = .notFound)
      if !isUsable || path = "" then return .error fault
      match ← Tool.ask (.readLink path) with
      | .ok aim =>
        if fault = .tooManyLinks then return .error fault
        resolve need fuel (if aim.startsWith "/" then aim else within (folderOf path) aim)
      | .error _ =>
        let inner : Need := if need = .nothing then .nothing else .all
        match ← resolve inner fuel (folderOf path) with
        | .error fault => return .error fault
        | .ok folder =>
          if need = .folder && !(← Tool.isDirectory folder) then return .error .notDirectory
          let last := lastPiece path
          return .ok (if last = ".." then folderOf folder else if last = "." then folder
            else within folder last)

def readlink (words : List Octets) : Tool Unit := do
  let (found, operands) ← Options.read {
    letters := "femnqsvz"
    long := [("canonicalize", 'f'), ("canonicalize-existing", 'e'), ("canonicalize-missing", 'm'),
      ("no-newline", 'n'), ("quiet", 'q'), ("silent", 's'), ("verbose", 'v'), ("zero", 'z')] } words
  if operands.isEmpty then Tool.misuse "missing operand"
  let need? : Option Need := (Given.last? found ["f", "e", "m"]).map fun g =>
    if g.name = "f" then .folder else if g.name = "e" then .all else .nothing
  let behind := if Given.has found "n" && operands.length = 1 then "" else ending found
  for path in operands do
    let answer : Except Fault Octets ← match need? with
      | some need => resolve need 50 path
      | none => Tool.ask (.readLink path)
    match answer with
    | .ok aim => Tool.print (aim ++ behind)
    | .error fault =>
      if Given.has found "v" then Tool.warn s!"{showName path}: {fault.text}"
      Tool.setStatus 1

/-- A path as seen from another, if it lies where it has to. -/
def seenFrom (folder? base? : Option Octets) (path : Octets) : Octets :=
  let isUnder (base : Octets) : Bool :=
    base = "/" || path = base || path.startsWith (base ++ "/")
  match folder?, base? with
  | some folder, some base => if isUnder base then pathFrom folder path else path
  | some folder, none => pathFrom folder path
  | none, some base => if isUnder base then pathFrom base path else path
  | none, none => path

def realpath (words : List Octets) : Tool Unit := do
  let (found, operands) ← Options.read {
    letters := "eEmLPqsz"
    long := [("canonicalize-existing", 'e'), ("canonicalize-missing", 'm'), ("logical", 'L'),
      ("physical", 'P'), ("quiet", 'q'), ("strip", 's'), ("no-symlinks", 's'), ("zero", 'z')]
    words := [("relative-to", .required), ("relative-base", .required)] } words
  if operands.isEmpty then Tool.misuse "missing operand"
  let need : Need := match Given.last? found ["e", "m"] with
    | some g => if g.name = "e" then .all else .nothing
    | none => .folder
  let here := (← Tool.ask .directory).toOption.getD "/"
  let full (path : Octets) : Octets :=
    straight (if path.startsWith "/" then path else within here path)
  let whole (path : Octets) : Tool (Except Fault Octets) := do
    if Given.has found "s" then
      if path = "" then return .error .notFound
      if need = .all then
        match ← Tool.ask (.status path true) with
        | .error fault => return .error fault
        | .ok _ => return .ok (full path)
      return .ok (full path)
    resolve need 50 path
  let named (name : String) : Tool (Option Octets) := do
    match Given.value? found name with
    | none => return none
    | some path =>
      match ← whole path with
      | .ok path => return some path
      | .error fault => Tool.fail s!"{showName path}: {fault.text}"
  let folder? ← named "relative-to"
  let base? ← named "relative-base"
  for path in operands do
    match ← whole path with
    | .ok path => Tool.print (seenFrom folder? base? path ++ ending found)
    | .error fault =>
      if !Given.has found "q" then Tool.warn s!"{showName path}: {fault.text}"
      Tool.setStatus 1

end AssetWatch.Utility
