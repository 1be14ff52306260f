import AssetWatch.Data.Value
import AssetWatch.Text.Decimal
import AssetWatch.Text.Quoted

/-!
# Reading records out of values

A record is written as a table of its fields, or as a list of them in their order. The
entries of a table are read in the order of the document, and the first that does not fit
decides the fault; an entry that names no field is passed over. What is missing is noticed
only after all that is there. A name out of a fixed choice is written as a text, or as a
table with the name as its only key.
-/

namespace AssetWatch.Schema

open Data (Value)

inductive Fault
  | wrongType (found : Value) (expected : String)
  | outOfRange (n : Int) (expected : String)
  | missingField (name : String)
  /-- a list with too few items for a record -/
  | tooShort (length : Nat) (record : String) (fields : Nat)
  | unknownName (name : String) (known : List String)
  | notAName
  | noName
  | severalNames
  /-- a bare name where a payload is due -/
  | payloadMissing
  | payloadNotEmpty
  | itemsNotEmpty
  | payloadNotTable (found : String)

/-- How a value is referred to in a message. -/
def describe : Value → String
  | .null => "null"
  | .boolean b => s!"boolean `{b}`"
  | .integer n => s!"integer `{n}`"
  | .float x => s!"floating point `{Text.Decimal.fractional x}`"
  | .text s => s!"string {Text.quoted s}"
  | .list _ | .tables _ => "sequence"
  | .table _ | .moment _ => "map"

/-- The names to choose from, in a message. -/
def choice : List String → String
  | [a, b] => s!"`{a}` or `{b}`"
  | names => "one of " ++ String.intercalate ", " (names.map fun name => s!"`{name}`")

def Fault.message : Fault → String
  | .wrongType found expected => s!"invalid type: {describe found}, expected {expected}"
  | .outOfRange n expected => s!"invalid value: integer `{n}`, expected {expected}"
  | .missingField name => s!"missing field `{name}`"
  | .tooShort length record fields =>
    s!"invalid length {length}, expected struct {record} with {fields} elements"
  | .unknownName name known => s!"unknown variant `{name}`, expected {choice known}"
  | .notAName => "wanted string or table"
  | .noName => "wanted exactly 1 element, found 0 elements"
  | .severalNames => "wanted exactly 1 element, more than 1 element"
  | .payloadMissing => "invalid type: unit variant, expected newtype variant"
  | .payloadNotEmpty => "expected empty table"
  | .itemsNotEmpty => "expected empty array"
  | .payloadNotTable found => s!"expected table, found {found}"

/-- Reads a value into `α`. -/
abbrev Reader (α : Type) := Value → Except Fault α

def text : Reader String
  | .text s => .ok s
  | v => .error (.wrongType v "a string")

def boolean : Reader Bool
  | .boolean b => .ok b
  | v => .error (.wrongType v "a boolean")

/-- A natural number of 64 bits, called `kind` in messages. -/
def word (kind : String) : Reader UInt64
  | .integer n =>
    if 0 ≤ n ∧ n < 2 ^ 64 then .ok (UInt64.ofNat n.toNat) else .error (.outOfRange n kind)
  | v => .error (.wrongType v kind)

/-- `null` stands for nothing. -/
def optional {α : Type} (item : Reader α) : Reader (Option α)
  | .null => .ok none
  | v => (item v).map some

def list {α : Type} (item : Reader α) : Reader (List α) := fun v =>
  match v.items? with
  | some items => items.mapM item
  | none => .error (.wrongType v "a sequence")

/-- The entries of a table, each value read by `item`. -/
def entries {α : Type} (item : Reader α) : Reader (List (String × α)) := fun v =>
  match v.entries? with
  | some es => es.mapM fun (name, v) => (item v).map fun a => (name, a)
  | none => .error (.wrongType v "a map")

/-- A name out of `known`, and the payload if it was written with one. -/
def named (known : List String) (v : Value) : Except Fault (String × Option Value) :=
  let check (name : String) (payload : Option Value) : Except Fault (String × Option Value) :=
    if known.contains name then .ok (name, payload) else .error (.unknownName name known)
  match v with
  | .text name => check name none
  | .table [] => .error .noName
  | .table [(name, payload)] => check name (some payload)
  | .table _ => .error .severalNames
  | _ => .error .notAName

/-- The payload of a name that has none: an empty table or list. -/
def emptyPayload : Value → Except Fault Unit
  | .table [] | .list [] | .tables [] => .ok ()
  | .table _ | .list _ => .error .payloadNotEmpty
  | .tables _ => .error .itemsNotEmpty
  | .text _ => .error (.payloadNotTable "string")
  | .integer _ => .error (.payloadNotTable "integer")
  | .float _ => .error (.payloadNotTable "float")
  | .boolean _ => .error (.payloadNotTable "boolean")
  | .moment _ => .error (.payloadNotTable "datetime")
  | .null => .error (.payloadNotTable "null")

/-- One of a fixed choice of values by its name. -/
def oneOf {α : Type} (name : α → String) (all : List α) : Reader α := fun v => do
  let (chosen, payload?) ← named (all.map name) v
  if let some payload := payload? then emptyPayload payload
  match all.find? (name · == chosen) with
  | some a => return a
  | none => .error (.unknownName chosen (all.map name))

/-- A field of a record under construction: its name, and how a value sets it. -/
structure FieldReader (δ : Type) where
  name : String
  set : δ → Value → Except Fault δ

/-- A field that keeps what `item` reads. -/
def field {δ α : Type} (name : String) (item : Reader α) (keep : δ → α → δ) : FieldReader δ :=
  ⟨name, fun draft v => (item v).map (keep draft)⟩

/-- Sets the field that an entry names, if there is one. -/
def setEntry {δ : Type} (fields : List (FieldReader δ)) (draft : δ) (entry : String × Value) :
    Except Fault δ :=
  match fields.find? (·.name == entry.1) with
  | some f => f.set draft entry.2
  | none => .ok draft

/-- Reads a record over a draft that holds the defaults. -/
def record {δ : Type} (name : String) (fields : List (FieldReader δ)) (draft : δ) :
    Reader δ := fun v =>
  match v.items?, v.entries? with
  | some items, _ => (fields.zip items).foldlM (fun draft (f, v) => f.set draft v) draft
  | none, some es => es.foldlM (setEntry fields) draft
  | none, none => .error (.wrongType v ("struct " ++ name))

end AssetWatch.Schema
