import AssetWatch.Shell.Builtin.Basic
import AssetWatch.Shell.Search

/-!
# What names stand for

Aliases, and what would run for the name of a command.
-/

namespace AssetWatch.Shell.Builtin

/-! ## Aliases -/

/-- The place of a name in a table of so many rows, by which names are listed. -/
def row (rows : Nat) (name : Octets) : Nat :=
  (name.foldl (fun n c => n + c.toNat) (((name.toList.head?.map Char.toNat).getD 0) * 16)) % rows

/-- Entries row by row. -/
def inRows {α : Type} (rows : Nat) (name : α → Octets) (entries : List α) : List α :=
  (List.range rows).flatMap fun n => entries.filter fun e => row rows (name e) = n

def aliasLine (name text : Octets) : Octets := s!"{name}={quoted text}\n"

def setAlias (words : List Octets) : Sh Nat := do
  match words.drop 1 with
  | [] =>
    let all := inRows 39 (·.1) (← get).aliases.reverse
    print (String.join (all.map fun (name, text) => aliasLine name text))
  | operands =>
    let mut status := 0
    for word in operands do
      let cs := word.toList
      let behind := (cs.drop 1).dropWhile (· ≠ '=')
      match behind with
      | '=' :: text =>
        let name := String.ofList (cs.take (cs.length - behind.length))
        let text := String.ofList text
        modify fun s => { s with aliases := (name, text) :: s.aliases.filter (·.1 != name) }
      | _ =>
        match (← get).aliases.lookup word with
        | some text =>
          let _ ← print (aliasLine word text)
        | none =>
          Sh.warnPlain s!"alias: {word} not found"
          status := 1
    return status

def removeAlias (words : List Octets) : Sh Nat := do
  let (found, operands) ← readOptions "a" words
  if !found.isEmpty then
    modify fun s => { s with aliases := [] }
    return 0
  else
    let mut status := 0
    for name in operands do
      if (← get).aliases.any (·.1 == name) then
        modify fun s => { s with aliases := s.aliases.filter (·.1 != name) }
      else
        Sh.warnPlain s!"unalias: {name} not found"
        status := 1
    return status

/-! ## Commands -/

/-- What would run for a name. -/
inductive Meaning
  | keyword
  | replaced (text : Octets)
  | function
  | builtin (special : Bool)
  | program (path : Octets) (known : Bool)
  | unknown

def meaningOf (isSpecial? : Octets → Option Bool) (path? : Option Octets) (name : Octets) :
    Sh Meaning := do
  let s ← get
  if Keyword.table.any (·.1 == name) then return .keyword
  if let some text := s.aliases.lookup name then return .replaced text
  if s.functions.any (·.name == name) then return .function
  if let some special := isSpecial? name then return .builtin special
  if name.toList.contains '/' then
    match ← Sh.ask (.status name true) with
    | .ok _ => return .program name false
    | .error _ => return .unknown
  if let (some found, none) := (s.remembered.lookup name, path?) then return .program found true
  match ← findProgram (path?.getD (s.get "PATH")) name with
  | .ok found => return .program found false
  | .error _ => return .unknown

/-- What is told of the meaning of a name, in full or in short. -/
def describe (isFull : Bool) (name : Octets) : Meaning → Option Octets
  | .keyword => if isFull then s!"{name} is a shell keyword" else name
  | .replaced text =>
    if isFull then s!"{name} is an alias for {text}" else s!"alias {name}={quoted text}"
  | .function => if isFull then s!"{name} is a shell function" else name
  | .builtin special =>
    let kind := if special then "special " else ""
    if isFull then s!"{name} is a {kind}shell builtin" else name
  | .program path known =>
    let how := if known then " a tracked alias for" else ""
    if isFull then s!"{name} is{how} {path}" else path
  | .unknown => if isFull then s!"{name}: not found" else none

def tell (isSpecial? : Octets → Option Bool) (path? : Option Octets) (isFull : Bool)
    (name : Octets) : Sh Nat := do
  let meaning ← meaningOf isSpecial? path? name
  match describe isFull name meaning with
  | some text =>
    let _ ← print (text ++ "\n")
  | none => pure ()
  return match meaning with
    | .unknown => 127
    | _ => 0

def tellAll (isSpecial? : Octets → Option Bool) (words : List Octets) : Sh Nat := do
  let mut status := 0
  for name in words.drop 1 do
    let one ← tell isSpecial? none true name
    status := status ||| one
  return status

/-- Where programs are looked for when the search path does not count. -/
def standardPath : Octets := "/usr/local/sbin:/usr/local/bin:/usr/sbin:/usr/bin:/sbin:/bin"

def command (isSpecial? : Octets → Option Bool) (words : List Octets) : Sh Nat := do
  let (found, operands) ← readOptions "pvV" words
  let path? := if found.any (·.1 = 'p') then some standardPath else none
  match operands with
  | [] => return 0
  | name :: _ =>
    if found.any (·.1 = 'V') then tell isSpecial? path? true name
    else if found.any (·.1 = 'v') then tell isSpecial? path? false name
    else return 0

def remember (words : List Octets) : Sh Nat := do
  let (found, operands) ← readOptions "r" words
  if !found.isEmpty then
    modify fun s => { s with remembered := [] }
    return 0
  else if operands.isEmpty then
    let all := inRows 31 (·.1) (← get).remembered
    print (String.join (all.map fun (_, path) => path ++ "\n"))
  else
    let mut status := 0
    for name in operands do
      match ← findProgram (← searchPath) name with
      | .ok path =>
        modify fun s =>
          { s with remembered := s.remembered.filter (·.1 != name) ++ [(name, path)] }
      | .error fault =>
        let reason := faultText "not found" fault
        Sh.warn s!"{name}: {reason}"
        status := 1
    return status

def names (isSpecial? : Octets → Option Bool) : List Builtin := [
  { name := "alias", assigns := true, run := fun _ => setAlias },
  { name := "unalias", run := fun _ => removeAlias },
  { name := "type", run := fun _ => tellAll isSpecial? },
  { name := "command", run := fun _ => command isSpecial? },
  { name := "hash", run := fun _ => remember }]

end AssetWatch.Shell.Builtin
