import AssetWatch.Shell.Builtin.Basic
import AssetWatch.Shell.Search

/-!
# Builtins that change where the shell goes on
-/

namespace AssetWatch.Shell.Builtin

/-- Leaves loops, or goes on with the next round of one. -/
def leaveLoops (skip : Nat → Skip) (words : List Octets) : Sh Nat := do
  let count ← match words.drop 1 with
    | [] => pure 1
    | word :: _ =>
      let n ← number word
      if n = 0 then Sh.fail s!"Illegal number: {word}" else pure n
  let s ← get
  let count := min count s.loops
  if 0 < count then set { s with skip := skip count }
  return 0

def leaveFunction (words : List Octets) : Sh Nat := do
  let status ← match words.drop 1 with
    | [] => do pure (← get).status
    | word :: _ => number word
  modify fun s => { s with skip := .function }
  return status

def exit (words : List Octets) : Sh Nat := do
  match words.drop 1 with
  | [] => Sh.leave
  | word :: _ =>
    let status ← number word
    Sh.exit status

def eval (e : Engine) (words : List Octets) : Sh Nat :=
  match words.drop 1 with
  | [] => pure 0
  | words => runText e {} (String.intercalate " " words)

/-- The path of a file of commands; a name without separators is looked for. -/
def scriptPath (name : Octets) : Sh Octets := do
  if name.toList.contains '/' then return name
  for candidate in candidates (← searchPath) name do
    if let .ok { kind := .file, .. } := ← Sh.ask (.status candidate true) then return candidate
  Sh.fail s!"{name}: not found"

/-- The text of a file of commands. -/
def scriptText (path : Octets) : Sh Octets := do
  match ← Sh.ask (.openFile path Host.Access.reading) with
  | .error fault =>
    let reason := faultText "No such file" fault
    Sh.fail s!"cannot open {path}: {reason}"
  | .ok descriptor =>
    let text := String.join (← readAll descriptor Reader.enough []).reverse
    let _ ← Sh.ask (.close descriptor)
    return text

def source (e : Engine) (words : List Octets) : Sh Nat := do
  match (← readOptions "" words).2 with
  | [] => return 0
  | name :: _ =>
    let path ← scriptPath name
    let text ← scriptText path
    modify fun s => { s with builtin? := some path }
    let status ← runText e {} text
    modify fun s => if s.skip = .function then { s with skip := .none } else s
    return status

def execute (words : List Octets) : Sh Nat := do
  match (← readOptions "" words).2 with
  | [] => return 0
  | args => executeProgram (← searchPath) args

def control : List Builtin := [
  { name := "break", isSpecial := true, run := fun _ => leaveLoops .break },
  { name := "continue", isSpecial := true, run := fun _ => leaveLoops .continue },
  { name := "return", isSpecial := true, run := fun _ => leaveFunction },
  { name := "exit", isSpecial := true, run := fun _ => exit },
  { name := "eval", isSpecial := true, run := eval },
  { name := ".", isSpecial := true, run := source },
  { name := "exec", isSpecial := true, run := fun _ => execute }]

end AssetWatch.Shell.Builtin
