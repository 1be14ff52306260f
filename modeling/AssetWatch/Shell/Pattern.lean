import AssetWatch.Text.Octets

/-!
# Patterns

Patterns match whole texts: `*` stands for any text, `?` for any character, and brackets for
one character out of a set. A character that was quoted stands for itself.
-/

namespace AssetWatch.Shell

/-- A class of characters that brackets may name. -/
def inClass (name : String) (c : Char) : Bool :=
  let n := c.toNat
  match name with
  | "alpha" => c.isAlpha
  | "digit" => c.isDigit
  | "alnum" => c.isAlphanum
  | "upper" => c.isUpper
  | "lower" => c.isLower
  | "space" => n = 32 || (9 ≤ n && n ≤ 13)
  | "blank" => n = 32 || n = 9
  | "punct" => 33 ≤ n && n ≤ 126 && !c.isAlphanum
  | "print" => 32 ≤ n && n ≤ 126
  | "graph" => 33 ≤ n && n ≤ 126
  | "cntrl" => n < 32 || n = 127
  | "xdigit" => c.isDigit || ('a' ≤ c && c ≤ 'f') || ('A' ≤ c && c ≤ 'F')
  | _ => false

def classNames : List String :=
  ["alpha", "digit", "alnum", "upper", "lower", "space", "blank", "punct", "print", "graph",
    "cntrl", "xdigit"]

/-- Characters out of ranges and classes, or out of none of them. -/
structure CharSet where
  negated : Bool := false
  ranges : List (Char × Char) := []
  classes : List String := []

def CharSet.contains (s : CharSet) (c : Char) : Bool :=
  (s.ranges.any (fun (low, high) => low ≤ c && c ≤ high) || s.classes.any (inClass · c)) != s.negated

/-- A character of a pattern, and whether it stands for itself in any case. -/
abbrev Glyph := Char × Bool

inductive Wildcard
  | one (c : Char)
  | any
  | many
  | oneOf (set : CharSet)
  deriving Inhabited

namespace Wildcard

/-- The name of a class in front, up to its end. -/
def className? (gs : List Glyph) : Option (String × List Glyph) :=
  let (name, rest) := gs.span fun (c, _) => c.isAlpha
  let name := String.ofList (name.map (·.1))
  match rest with
  | (':', _) :: (']', _) :: rest => if classNames.contains name then some (name, rest) else none
  | _ => none

/-- Reads a set up to its closing bracket. -/
def set? (s : CharSet) (started : Bool) : (fuel : Nat) → List Glyph → Option (CharSet × List Glyph)
  | 0, _ | _, [] => none
  | fuel + 1, (c, quoted) :: rest =>
    if c = ']' && !quoted && started then some (s, rest)
    else
      let named? := match c, quoted, rest with
        | '[', false, (':', _) :: behind => className? behind
        | _, _, _ => none
      match named?, rest with
      | some (name, rest), _ => set? { s with classes := name :: s.classes } true fuel rest
      | none, ('-', false) :: (high, quotedHigh) :: behind =>
        if high = ']' && !quotedHigh then
          set? { s with ranges := (c, c) :: s.ranges } true fuel rest
        else set? { s with ranges := (c, high) :: s.ranges } true fuel behind
      | none, rest => set? { s with ranges := (c, c) :: s.ranges } true fuel rest

/-- Reads a pattern. -/
def ofGlyphs : (fuel : Nat) → List Glyph → List Wildcard
  | 0, _ | _, [] => []
  | fuel + 1, (c, true) :: rest => .one c :: ofGlyphs fuel rest
  | fuel + 1, (c, false) :: rest =>
    match c with
    | '*' => .many :: ofGlyphs fuel rest
    | '?' => .any :: ofGlyphs fuel rest
    | '\\' =>
      match rest with
      | (d, _) :: rest => .one d :: ofGlyphs fuel rest
      | [] => [.one c]
    | '[' =>
      let (negated, inner) := match rest with
        | ('!', false) :: inner => (true, inner)
        | inner => (false, inner)
      match set? { negated } false (inner.length + 1) inner with
      | some (set, rest) => .oneOf set :: ofGlyphs fuel rest
      | none => .one c :: ofGlyphs fuel rest
    | c => .one c :: ofGlyphs fuel rest

def passes : Wildcard → Char → Bool
  | .one d, c => d == c
  | .any, _ => true
  | .many, _ => true
  | .oneOf set, c => set.contains c

def isWild : Wildcard → Bool
  | .one _ => false
  | _ => true

def isMany : Wildcard → Bool
  | .many => true
  | _ => false

end Wildcard

/-- What is left of a pattern, in all the ways in which it may have been matched so far. -/
abbrev Remainders := List (List Wildcard)

namespace Remainders

/-- Adds a remainder, and those in which stars at its front match nothing. -/
def add (r : Remainders) : List Wildcard → Remainders
  | [] => if r.any List.isEmpty then r else r ++ [[]]
  | .many :: rest =>
    let whole := Wildcard.many :: rest
    let r := if r.any (·.length == whole.length) then r else r ++ [whole]
    add r rest
  | w :: rest =>
    if r.any (·.length == rest.length + 1) then r else r ++ [w :: rest]

/-- What is left after a character. -/
def step (r : Remainders) (c : Char) : Remainders :=
  r.foldl (fun next remainder =>
    match remainder with
    | [] => next
    | w :: rest => if w.passes c then next.add (if w.isMany then w :: rest else rest) else next) []

def isMatch (r : Remainders) : Bool := r.any List.isEmpty

end Remainders

/-- A pattern that has been read. -/
abbrev Pattern := List Wildcard

namespace Pattern

def ofGlyphs (gs : List Glyph) : Pattern := Wildcard.ofGlyphs (gs.length + 1) gs

def isWild (p : Pattern) : Bool := p.any Wildcard.isWild

/-- The text of a pattern that matches one text only. -/
def literal? (p : Pattern) : Option (List Char) := p.mapM fun
  | .one c => some c
  | _ => none

/-- The lengths of the beginnings of a text that match, the shortest in front. -/
def lengths (p : Pattern) (text : List Char) : List Nat :=
  let start : Remainders := Remainders.add [] p
  let found := if start.isMatch then [0] else []
  let (_, _, found) := text.foldl (fun (r, n, found) c =>
    let r : Remainders := Remainders.step r c
    (r, n + 1, if r.isMatch then (n + 1) :: found else found)) (start, 0, found)
  found.reverse

def isMatch (p : Pattern) (text : List Char) : Bool :=
  match p.literal? with
  | some literal => literal == text
  | none => (text.foldl Remainders.step (Remainders.add [] p)).isMatch

/-- The text without a beginning that matches. -/
def cutFront (p : Pattern) (longest : Bool) (text : List Char) : List Char :=
  let found := p.lengths text
  match if longest then found.getLast? else found.head? with
  | some n => text.drop n
  | none => text

/-- The text without an end that matches. -/
def cutBack (p : Pattern) (longest : Bool) (text : List Char) : List Char :=
  let found := lengths p.reverse text.reverse
  match if longest then found.getLast? else found.head? with
  | some n => text.take (text.length - n)
  | none => text

end Pattern

end AssetWatch.Shell
