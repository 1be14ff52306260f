/-!
# Reading from the front of a text

A reader takes what it recognises off the front of a list of characters and returns it with
the rest, or refuses. Here are the readers for blanks, comments and line ends.
-/

namespace AssetWatch.Toml

abbrev Reader (α : Type) := List Char → Option (α × List Char)

/-- A character that may stand in comments and in literal text: tab, or no control. -/
def isGraphic (c : Char) : Bool := c == '\t' || (0x20 ≤ c.toNat && c.toNat ≠ 0x7F)

/-- Skips spaces and tabs. -/
def skipBlanks (s : List Char) : List Char := s.dropWhile fun c => c == ' ' || c == '\t'

/-- Takes one line end off: a line feed, with or without a carriage return before it. -/
def lineEnd? : List Char → Option (List Char)
  | '\n' :: rest => some rest
  | '\x0d' :: '\n' :: rest => some rest
  | _ => none

/-- Skips a comment up to its line end, if one starts here. -/
def skipComment : List Char → List Char
  | '#' :: rest => rest.dropWhile isGraphic
  | s => s

/-- What may follow a statement on its line: blanks and a comment, then the line or the text
ends. -/
def finishLine (s : List Char) : Option (List Char) :=
  match skipComment (skipBlanks s) with
  | [] => some []
  | rest => lineEnd? rest

/-- Skips blanks, comments and line ends between the items of an array. -/
def skipLines : (fuel : Nat) → List Char → List Char
  | 0, s => s
  | fuel + 1, s =>
    let s := skipBlanks s
    match lineEnd? (skipComment s) with
    | some rest => skipLines fuel rest
    | none => s

/-- Each underscore stands between two digits. -/
def underscoresInside : List Char → Bool
  | [] => false
  | '_' :: _ => false
  | [_] => true
  | _ :: '_' :: rest => underscoresInside rest
  | _ :: rest => underscoresInside rest

/-- A run of digits, single underscores allowed between them; gives the digits alone. -/
def digitsWhere (accept : Char → Bool) : Reader (List Char) := fun s =>
  let run := s.takeWhile fun c => accept c || c == '_'
  if underscoresInside run then some (run.filter (· ≠ '_'), s.drop run.length) else none

/-- The value of digits in a base up to sixteen. -/
def numeral (base : Nat) (digits : List Char) : Nat :=
  digits.foldl (fun n c => n * base +
    (if c.isDigit then c.toNat - 48 else if c.toNat < 97 then c.toNat - 55 else c.toNat - 87)) 0

def isHexDigit (c : Char) : Bool :=
  c.isDigit || ('a' ≤ c && c ≤ 'f') || ('A' ≤ c && c ≤ 'F')

end AssetWatch.Toml
