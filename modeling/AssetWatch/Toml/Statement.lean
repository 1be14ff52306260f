import AssetWatch.Toml.Value

/-!
# Statements

A document is a sequence of statements, one a line: an entry, a table's header in brackets,
or in double brackets the header of one more table of an array.
-/

namespace AssetWatch.Toml

open Data (Value)

inductive Statement
  | entry (key : List String) (value : Value)
  | header (key : List String)
  | arrayHeader (key : List String)

def Statement.read : Reader Statement := fun s =>
  match s with
  | '[' :: '[' :: rest => do
    let (name, rest) ← key rest
    return (.arrayHeader name, ← expect ']' (← expect ']' rest))
  | '[' :: rest => do
    let (name, rest) ← key rest
    return (.header name, ← expect ']' rest)
  | s => do
    let (name, rest) ← key s
    let (v, rest) ← value maxDepth (skipBlanks (← expect '=' rest))
    return (.entry name v, rest)

/-- The statements of the remaining lines. -/
def Statement.readAll : (fuel : Nat) → List Char → Option (List Statement)
  | 0, _ => none
  | fuel + 1, s =>
    match skipComment (skipBlanks s) with
    | [] => some []
    | s =>
      match lineEnd? s with
      | some rest => readAll fuel rest
      | none => do
        let (statement, rest) ← Statement.read s
        let statements ← readAll fuel (← finishLine rest)
        return statement :: statements

/-- The statements of a text, which may start with a byte order mark. -/
def statements (content : String) : Option (List Statement) :=
  let s := match content.toList with
    | '\ufeff' :: rest => rest
    | s => s
  Statement.readAll (s.length + 1) s

end AssetWatch.Toml
