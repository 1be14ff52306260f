import AssetWatch.Data.Value
import AssetWatch.Toml.Text
import AssetWatch.Toml.Number
import AssetWatch.Toml.Moment

/-!
# Values

An array may run over several lines, hold comments and end with a comma; an inline table
stays on one line and does not. Inside an inline table a key of several parts builds tables
on its way, which only other such keys may add to.
-/

namespace AssetWatch.Toml

open Data (Value)

/-- A table while its inline entries are read. -/
inductive Inline
  | value (v : Value)
  /-- a table made by the front parts of a key -/
  | dotted (entries : List (String × Inline))
  deriving Inhabited

namespace Inline

abbrev Entries := List (String × Inline)

/-- Adds an entry under a key of several parts; `inside` tells that a part has been passed. -/
def insert : List String → Value → Entries → Option Entries
  | [], _, _ => none
  | [name], v, entries =>
    if (entries.lookup name).isSome then none else some (entries ++ [(name, .value v)])
  | name :: path, v, entries =>
    match entries.lookup name with
    | none => (insert path v []).map fun inner => entries ++ [(name, .dotted inner)]
    | some (.value _) => none
    | some (.dotted inner) => (insert path v inner).map fun inner =>
        entries.map fun e => if e.1 = name then (name, .dotted inner) else e

mutual

def toValue : Inline → Value
  | .value v => v
  | .dotted entries => .table (toEntries entries)

def toEntries : Entries → List (String × Value)
  | [] => []
  | (name, inner) :: rest => (name, toValue inner) :: toEntries rest

end

end Inline

/-- Items of an array after its bracket, up to the closing one. -/
def arrayItems (item : Reader Value) : (fuel : Nat) → Reader (List Value)
  | 0, _ => none
  | fuel + 1, s =>
    match skipLines (s.length + 1) s with
    | ']' :: rest => some ([], rest)
    | s => do
      let (v, rest) ← item s
      match skipLines (rest.length + 1) rest with
      | ',' :: rest => (arrayItems item fuel rest).map fun (vs, left) => (v :: vs, left)
      | ']' :: rest => some ([v], rest)
      | _ => none

/-- Entries of an inline table, the next one due, up to the closing brace. -/
def inlineEntries (item : Reader Value) : (fuel : Nat) → Inline.Entries → Reader Inline.Entries
  | 0, _, _ => none
  | fuel + 1, entries, s => do
    let (path, rest) ← key s
    let rest ← expect '=' rest
    let (v, rest) ← item (skipBlanks rest)
    let entries ← Inline.insert path v entries
    match skipBlanks rest with
    | ',' :: rest => inlineEntries item fuel entries rest
    | '\x7d' :: rest => some (entries, rest)
    | _ => none

/-- A value that starts with neither bracket nor brace. -/
def scalar : Reader Value := fun s =>
  let as {α : Type} (wrap : α → Value) (r : Reader α) : Option (Value × List Char) :=
    (r s).map fun (a, rest) => (wrap a, rest)
  match s with
  | '"' :: _ | '\x27' :: _ => as .text text
  | 't' :: 'r' :: 'u' :: 'e' :: rest => some (.boolean true, rest)
  | 'f' :: 'a' :: 'l' :: 's' :: 'e' :: rest => some (.boolean false, rest)
  | _ => (as .moment moment).orElse fun _ => (as .float float).orElse fun _ => as .integer integer

/-- A value with at most `depth` brackets and braces around its innermost parts. -/
def value : (depth : Nat) → Reader Value := fun depth s =>
  match s with
  | '[' :: rest =>
    match depth with
    | 0 => none
    | depth + 1 =>
      (arrayItems (value depth) (rest.length + 1) rest).map fun (vs, left) => (.list vs, left)
  | '\x7b' :: rest =>
    match depth with
    | 0 => none
    | depth + 1 =>
      match skipBlanks rest with
      | '\x7d' :: left => some (.table [], left)
      | _ => (inlineEntries (value depth) (rest.length + 1) [] rest).map fun (entries, left) =>
          (.table (Inline.toEntries entries), left)
  | s => scalar s

end AssetWatch.Toml
