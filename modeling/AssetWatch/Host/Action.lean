import AssetWatch.Config.Schema
import AssetWatch.Host.Change

/-!
# Changes of files, described

A change of a project's files is described by a record whose first field says what is done:
`file` writes one, `dir` makes a folder, `link` makes a link, `remove` removes whatever is
there, and `rename` moves it. Folders that are missing above a new entry are made.
-/

namespace AssetWatch.Host

open Data (Value)

inductive Action
  | write (path : Path) (content : ByteArray) (mode? : Option Nat)
  | makeFolder (path : Path)
  | link (path target : Path)
  | remove (path : Path)
  | rename (source target : Path)

namespace Action

def byte : Schema.Reader UInt8
  | .integer n => .ok (UInt8.ofNat n.toNat)
  | v => .error (.wrongType v "a byte")

def textField (entries : List (String × Value)) (name : String) : Except Schema.Fault String :=
  match entries.lookup name with
  | some v => Schema.text v
  | none => .error (.missingField name)

def content (entries : List (String × Value)) : Except Schema.Fault ByteArray :=
  match entries.lookup "bytes", entries.lookup "text" with
  | some v, _ => do return ⟨(← Schema.list byte v).toArray⟩
  | none, some v => do return (← Schema.text v).toUTF8
  | none, none => .ok ByteArray.empty

/-- Reads the description of a change. -/
def decode : Schema.Reader Action := fun v => do
  let entries ← Schema.entries (fun v => .ok v) v
  let path (name : String) : Except Schema.Fault Path := do return ⟨← textField entries name⟩
  if (entries.lookup "file").isSome then
    let mode? ← match entries.lookup "exec" with
      | some v => (fun executable => some (if executable then 0o755 else 0o644)) <$> Schema.boolean v
      | none => pure none
    return .write (← path "file") (← content entries) mode?
  if (entries.lookup "dir").isSome then return .makeFolder (← path "dir")
  if (entries.lookup "link").isSome then return .link (← path "link") (← path "to")
  if (entries.lookup "remove").isSome then return .remove (← path "remove")
  if (entries.lookup "rename").isSome then return .rename (← path "rename") (← path "to")
  throw (.missingField "file")

/-- Makes the folders above a path. -/
def makeParent (t : Tree) (cwd : Place) (p : Path) : Tree :=
  match p.parent? with
  | some parent => (t.makeDirectories cwd parent).toOption.getD t
  | none => t

/-- Does a change, as far as the system lets it be done. -/
def apply (cwd : Place) (t : Tree) : Action → Tree
  | .write p content mode? =>
    let t := makeParent t cwd p
    (t.write cwd p content mode?).toOption.getD t
  | .makeFolder p => (t.makeDirectories cwd p).toOption.getD t
  | .link p target =>
    let t := makeParent t cwd p
    (t.link cwd p target).toOption.getD t
  | .remove p => (t.remove cwd p).toOption.getD t
  | .rename source target =>
    let t := makeParent t cwd target
    (t.rename cwd source target).toOption.getD t

end Action

end AssetWatch.Host
