import AssetWatch.Host.Change
import AssetWatch.Text.Octets

/-!
# Files that can be run

The content of a file decides what runs: a utility of the system, which the content names, or
a script, whose first line names the program that runs it. Only the beginning of a script is
looked at, and where it ends within the name of the program nothing can be run.
-/

namespace AssetWatch.Host

/-- What runs, and its arguments. -/
structure Executable where
  utility : String
  args : List Octets

namespace Executable

/-- What the file of a utility begins with. -/
def magic : String := "\x7fELF"

/-- The content of the file of a utility. -/
def image (name : String) : ByteArray := Octets.bytes (magic ++ "\x02\x01\x01" ++ name)

def utility? (content : ByteArray) : Option String :=
  let front := Octets.ofBytes (content.extract 0 64)
  let mark := magic ++ "\x02\x01\x01"
  if front.startsWith mark then some (front.drop mark.length).toString else none

def isBlank (c : Char) : Bool := c = ' ' || c = '\t'

/-- How much of a script is looked at. -/
def window : Nat := 256

/-- The program in the first line of a script, and what follows it there. -/
def interpreter? (content : ByteArray) : Option (Octets × List Octets) :=
  let front := (Octets.ofBytes (content.extract 0 window)).toList
  match front with
  | '#' :: '!' :: rest =>
    let line := rest.takeWhile fun c => c ≠ '\n' && c ≠ '\x00'
    let isWhole := line.length < rest.length || content.size < window
    let inner := line.dropWhile isBlank
    let name := inner.takeWhile fun c => !isBlank c
    let behind := inner.dropWhile fun c => !isBlank c
    if name.isEmpty || (!isWhole && behind.isEmpty) then none
    else
      let seen := if isWhole then behind else behind.dropLast
      let isClosed := !isWhole || rest[line.length]? == some '\n'
      let argument := seen.dropWhile isBlank
      let argument := if isClosed then (argument.reverse.dropWhile isBlank).reverse else argument
      some (String.ofList name, if argument.isEmpty then [] else [String.ofList argument])
  | _ => none

/-- What runs for a path, given the arguments with the program's name in front. A script is run
by another program, which `again` finds with the arguments it is given. -/
def findBy (t : Tree) (cwd : Place) (again : Octets → List Octets → Except Fault Executable)
    (path : Octets) (args : List Octets) : Except Fault Executable := do
  let (_, node) ← t.stat cwd ⟨Octets.text path⟩
  match node.entry with
  | .file content =>
    if node.mode &&& 0o111 = 0 then throw .accessDenied
    match utility? content with
    | some utility => return { utility, args }
    | none =>
      match interpreter? content with
      | none => throw .unknownFormat
      | some (interpreter, argument) =>
        again interpreter (interpreter :: argument ++ path :: args.drop 1)
  | _ => throw .accessDenied

/-- What runs for a path. A script may be run by another script, so many times at most. -/
def find (t : Tree) (cwd : Place) : (depth : Nat) → (path : Octets) → (args : List Octets) →
    Except Fault Executable
  | 0 => findBy t cwd fun _ _ => .error .tooManyLinks
  | depth + 1 => findBy t cwd (find t cwd depth)

end Executable

end AssetWatch.Host
