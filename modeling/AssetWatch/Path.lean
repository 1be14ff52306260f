import AssetWatch.Order.Sorted
import AssetWatch.Text.Quoted

/-!
# Paths

A path keeps the spelling it was written with and is compared by its components. Repeated
separators, a separator at the end and a `.` that is not in front do not count; `..` stays,
since what it leads to depends on links. Components are ordered with the root first, then
`.`, then `..`, then names by their bytes.
-/

namespace AssetWatch

structure Path where
  text : String
  deriving DecidableEq, Inhabited

inductive Component
  | root
  | here
  | up
  | name (text : String)
  deriving DecidableEq

/-- What stands between the separators of a text; never empty. -/
def Path.pieces : List Char → List (List Char)
  | [] => [[]]
  | c :: rest =>
    if c = '/' then [] :: pieces rest
    else match pieces rest with
      | [] => [[c]]
      | first :: more => (c :: first) :: more

namespace Component

/-- A piece behind the front: an empty one and `.` do not count. -/
def ofPiece? (piece : List Char) : Option Component :=
  if piece = [] ∨ piece = ['.'] then none
  else if piece = ['.', '.'] then some .up
  else some (.name (String.ofList piece))

/-- Compares as components do. -/
def key : Component → String
  | .root => "0"
  | .here => "1"
  | .up => "2"
  | .name text => "3" ++ text

end Component

namespace Path

def chars (p : Path) : List Char := p.text.toList

def isAbsolute (p : Path) : Bool := p.chars.head? == some '/'

def components (p : Path) : List Component :=
  match pieces p.chars with
  | first :: rest =>
    if p.isAbsolute then .root :: rest.filterMap Component.ofPiece?
    else if first = ['.'] then .here :: rest.filterMap Component.ofPiece?
    else (first :: rest).filterMap Component.ofPiece?
  | [] => []

/-- Paths are the same, smaller or larger as their keys are. -/
def key (p : Path) : List String := p.components.map Component.key

/-- The two are the same path, perhaps in different spellings. -/
def sameAs (p q : Path) : Bool := p.components == q.components

/-- `p` is `folder` or lies under it, by components. -/
def startsWith (p folder : Path) : Bool := folder.components.isPrefixOf p.components

/-- `p` seen from `base`: an absolute path stays as it is. -/
def join (base p : Path) : Path :=
  if p.isAbsolute then p
  else if base.text = "" ∨ base.chars.getLast? = some '/' then ⟨base.text ++ p.text⟩
  else ⟨base.text ++ "/" ++ p.text⟩

/-- The last component, if it is a name. -/
def fileName? (p : Path) : Option String :=
  match p.components.getLast? with
  | some (.name text) => some text
  | _ => none

def fileName (p : Path) : String := p.fileName?.getD ""

/-- A name up to its last dot; a dot in front belongs to the stem. -/
def stemOf (name : String) : String :=
  let reversed := name.toList.reverse
  match reversed.dropWhile (· ≠ '.') with
  | [] => name
  | _ :: before => if before.isEmpty then name else String.ofList before.reverse

def fileStem (p : Path) : String := stemOf p.fileName

/-- Cuts separators and `.` pieces off the end of a reversed text, leaving a front `/`. -/
def dropIdle : List Char → List Char
  | '/' :: c :: rest => dropIdle (c :: rest)
  | '.' :: '/' :: rest => dropIdle ('/' :: rest)
  | cs => cs

/-- The path without its last component, as spelled. -/
def parent? (p : Path) : Option Path :=
  match p.components.getLast? with
  | none | some .root => none
  | some _ =>
    let rest := (dropIdle p.chars.reverse).dropWhile (· ≠ '/')
    some ⟨String.ofList (dropIdle rest).reverse⟩

def quoted (p : Path) : String := Text.quoted p.text

end Path

/-- A set of paths in path order; of two spellings of a path the first stays. -/
abbrev PathSet := Sorted Path.key

end AssetWatch
