import AssetWatch.Toml.Scanner

/-!
# Text and keys

Four ways to write text: between quotes with escapes or between apostrophes without, on one
line or, with the mark three times, on several. A line end right after an opening triple
mark does not count, and every line end inside counts as a line feed. One or two marks may
stand in the text next to the closing three.
-/

namespace AssetWatch.Toml

/-- The character with a code point in hexadecimal, if there is one. -/
def scalar? (digits : List Char) : Option Char :=
  let n := numeral 16 digits
  if h : digits.all isHexDigit ∧ n.isValidChar then some (Char.ofNatAux n h.2) else none

/-- What follows a backslash. -/
def escape? : Reader Char
  | 'b' :: rest => some ('\x08', rest)
  | 't' :: rest => some ('\t', rest)
  | 'n' :: rest => some ('\n', rest)
  | 'f' :: rest => some ('\x0c', rest)
  | 'r' :: rest => some ('\x0d', rest)
  | '"' :: rest => some ('"', rest)
  | '\\' :: rest => some ('\\', rest)
  | 'u' :: a :: b :: c :: d :: rest => (scalar? [a, b, c, d]).map (·, rest)
  | 'U' :: a :: b :: c :: d :: e :: f :: g :: h :: rest =>
    (scalar? [a, b, c, d, e, f, g, h]).map (·, rest)
  | _ => none

/-- The rest of a text on one line, after its opening quote. -/
def basicTail : (fuel : Nat) → Reader (List Char)
  | 0, _ => none
  | fuel + 1, s =>
    match s with
    | '"' :: rest => some ([], rest)
    | '\\' :: rest => do
      let (c, rest) ← escape? rest
      let (cs, rest) ← basicTail fuel rest
      return (c :: cs, rest)
    | c :: rest =>
      if isGraphic c then (basicTail fuel rest).map fun (cs, left) => (c :: cs, left) else none
    | [] => none

def literalTail : Reader (List Char) := fun s =>
  let body := s.takeWhile fun c => isGraphic c && c ≠ '\x27'
  match s.drop body.length with
  | '\x27' :: rest => some (body, rest)
  | _ => none

/-- Skips blanks and whole line ends. -/
def skipSpace : (fuel : Nat) → List Char → List Char
  | 0, s => s
  | fuel + 1, s =>
    let s := skipBlanks s
    match lineEnd? s with
    | some rest => skipSpace fuel rest
    | none => s

/-- The rest of a text on several lines, after the three marks that open it. -/
def multilineTail (mark : Char) (escapes : Bool) : (fuel : Nat) → Reader (List Char)
  | 0, _ => none
  | fuel + 1, s =>
    match s with
    | [] => none
    | c :: rest =>
      if c = mark then
        let count := (s.takeWhile (· = mark)).length
        if 3 ≤ count then
          let extra := min (count - 3) 2
          some (List.replicate extra mark, s.drop (extra + 3))
        else (multilineTail mark escapes fuel (s.drop count)).map fun (cs, left) =>
          (List.replicate count mark ++ cs, left)
      else match lineEnd? s with
      | some rest => (multilineTail mark escapes fuel rest).map fun (cs, left) => ('\n' :: cs, left)
      | none =>
        if c = '\\' && escapes then
          match lineEnd? (skipBlanks rest) with
          | some below => multilineTail mark escapes fuel (skipSpace below.length below)
          | none => do
            let (c, rest) ← escape? rest
            let (cs, rest) ← multilineTail mark escapes fuel rest
            return (c :: cs, rest)
        else if isGraphic c then
          (multilineTail mark escapes fuel rest).map fun (cs, left) => (c :: cs, left)
        else none

/-- A text of any of the four kinds. -/
def text : Reader String := fun s =>
  let finish := Option.map (fun ((cs, rest) : List Char × List Char) => (String.ofList cs, rest))
  match s with
  | '"' :: '"' :: '"' :: rest =>
    finish (multilineTail '"' true (rest.length + 1) ((lineEnd? rest).getD rest))
  | '\x27' :: '\x27' :: '\x27' :: rest =>
    finish (multilineTail '\x27' false (rest.length + 1) ((lineEnd? rest).getD rest))
  | '"' :: rest => finish (basicTail (rest.length + 1) rest)
  | '\x27' :: rest => finish (literalTail rest)
  | _ => none

/-- One part of a key: bare, or a text on one line. -/
def simpleKey : Reader String := fun s =>
  let finish := Option.map (fun ((cs, rest) : List Char × List Char) => (String.ofList cs, rest))
  match s with
  | '"' :: rest => finish (basicTail (rest.length + 1) rest)
  | '\x27' :: rest => finish (literalTail rest)
  | _ =>
    let bare := s.takeWhile fun c => c.isAlphanum || c == '-' || c == '_'
    if bare.isEmpty then none else some (String.ofList bare, s.drop bare.length)

/-- How deep keys and values may nest. -/
def maxDepth : Nat := 79

/-- Parts joined by dots, with blanks around each; the count is bounded by `left`. -/
def keyParts : (left : Nat) → Reader (List String)
  | 0, _ => none
  | left + 1, s => do
    let (part, rest) ← simpleKey (skipBlanks s)
    match skipBlanks rest with
    | '.' :: more => (keyParts left more).map fun (parts, rest) => (part :: parts, rest)
    | rest => some ([part], rest)

def key : Reader (List String) := keyParts maxDepth

end AssetWatch.Toml
