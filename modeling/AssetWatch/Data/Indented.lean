import AssetWatch.Data.Value
import AssetWatch.Text.Decimal

/-!
# Indented text of values

Every item and entry stands on a line of its own, two columns further in than what it
belongs to; an empty list or table stands on one line. Text is quoted, with escapes for
quotes, backslashes and controls.
-/

namespace AssetWatch.Data

def escapeChar (c : Char) : String :=
  if c = '"' then "\\\""
  else if c = '\\' then "\\\\"
  else if c = '\x08' then "\\b"
  else if c = '\t' then "\\t"
  else if c = '\n' then "\\n"
  else if c = '\x0c' then "\\f"
  else if c = '\r' then "\\r"
  else if c.toNat < 32 then
    "\\u00" ++ String.ofList [Nat.digitChar (c.toNat / 16), Nat.digitChar (c.toNat % 16)]
  else c.toString

def escaped (s : String) : String := "\"" ++ String.join (s.toList.map escapeChar) ++ "\""

/-- Lines between two brackets, each but the last with a comma. -/
def bracketed (opening closing margin : String) (items : List String) : String :=
  if items.isEmpty then opening ++ closing
  else
    let inner := margin ++ "  "
    opening ++ "\n" ++ String.intercalate ",\n" (items.map (inner ++ ·)) ++ "\n" ++ margin ++ closing

namespace Value

mutual

/-- The text of a value that stands behind a margin. -/
def indentedAt (margin : String) : Value → String
  | .null => "null"
  | .boolean b => if b then "true" else "false"
  | .integer n => toString n
  | .float x => Text.Decimal.fractional x
  | .text s | .moment s => escaped s
  | .list items => bracketed "[" "]" margin (itemsAt (margin ++ "  ") items)
  | .table entries => bracketed "\x7b" "\x7d" margin (entriesAt (margin ++ "  ") entries)
  | .tables items => bracketed "[" "]" margin (tablesAt (margin ++ "  ") items)

def itemsAt (margin : String) : List Value → List String
  | [] => []
  | v :: rest => v.indentedAt margin :: itemsAt margin rest

def entriesAt (margin : String) : List (String × Value) → List String
  | [] => []
  | (name, v) :: rest => (escaped name ++ ": " ++ v.indentedAt margin) :: entriesAt margin rest

def tablesAt (margin : String) : List (List (String × Value)) → List String
  | [] => []
  | entries :: rest =>
    bracketed "\x7b" "\x7d" margin (entriesAt (margin ++ "  ") entries) :: tablesAt margin rest

end

def indented (v : Value) : String := v.indentedAt ""

end Value

end AssetWatch.Data
