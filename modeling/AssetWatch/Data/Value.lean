/-!
# Self-describing values

What a configuration document holds: scalars, lists, and tables whose entries stay in the
order of the document. Tables under headers of their own that share one name are a list of a
kind of its own.
-/

namespace AssetWatch.Data

inductive Value
  | null
  | boolean (b : Bool)
  | integer (n : Int)
  | float (x : Float)
  | text (s : String)
  /-- a date, a time or both, in its standard spelling -/
  | moment (spelling : String)
  | list (items : List Value)
  | table (entries : List (String × Value))
  /-- tables under headers of one name, each given by its entries -/
  | tables (items : List (List (String × Value)))
  deriving Inhabited

/-- The one key of a date-time that is read as a table. -/
def Value.momentKey : String := "$__toml_private_datetime"

/-- A table's entries; a date-time is a table of one reserved key. -/
def Value.entries? : Value → Option (List (String × Value))
  | .table entries => some entries
  | .moment spelling => some [(momentKey, .text spelling)]
  | _ => none

/-- The items of a list of either kind. -/
def Value.items? : Value → Option (List Value)
  | .list items => some items
  | .tables items => some (items.map .table)
  | _ => none

end AssetWatch.Data
