import AssetWatch.Shell.Pattern
import AssetWatch.Utility.Escape
import AssetWatch.Utility.Input

/-!
# Translating characters

Characters of one set become those at the same places in another, are deleted, or stand only
once where they stood in a row.
-/

namespace AssetWatch.Utility.Translation

/-- An item of a set. -/
inductive Item
  | chars (chars : List Char)
  | upper
  | lower
  /-- so often, or as often as it takes -/
  | repeated (c : Char) (count? : Option Nat)

def allChars : List Char := (List.range 256).map Char.ofNat

/-- A character in front, which may be escaped. -/
def character : List Char → Option (Char × Bool × List Char)
  | [] => none
  | '\\' :: [] => some ('\\', false, [])
  | '\\' :: c :: rest =>
    let one (d : Char) := some (d, true, rest)
    match c with
    | 'a' => one '\x07'
    | 'b' => one '\x08'
    | 'f' => one '\x0c'
    | 'n' => one '\n'
    | 'r' => one '\r'
    | 't' => one '\t'
    | 'v' => one '\x0b'
    | c =>
      let ds := ((c :: rest).takeWhile Escapes.isOctal).take 3
      if ds.isEmpty then one c
      else some (Escapes.octal ds, true, (c :: rest).drop ds.length)
  | c :: rest => some (c, false, rest)

/-- The count of a repetition; digits of base eight begin with a zero. -/
def countOf (ds : List Char) : Nat :=
  let base := if ds.head? = some '0' then 8 else 10
  ds.foldl (fun n c => n * base + (c.toNat - '0'.toNat)) 0

def items : (fuel : Nat) → List Char → Except Octets (List Item)
  | 0, _ => .ok []
  | _, [] => .ok []
  | fuel + 1, cs =>
    let special : Option (Except Octets Item × List Char) := match cs with
      | '[' :: ':' :: rest =>
        let name := String.ofList (rest.takeWhile Char.isAlpha)
        match rest.drop name.length with
        | ':' :: ']' :: rest =>
          if name = "upper" then some (.ok .upper, rest)
          else if name = "lower" then some (.ok .lower, rest)
          else if Shell.classNames.contains name then
            some (.ok (.chars (allChars.filter (Shell.inClass name))), rest)
          else some (.error s!"invalid character class {quoteText name}", [])
        | _ => none
      | '[' :: '=' :: c :: '=' :: ']' :: rest => some (.ok (.chars [c]), rest)
      | '[' :: rest =>
        match character rest with
        | some (c, _, '*' :: rest) =>
          let ds := rest.takeWhile Char.isDigit
          match rest.drop ds.length with
          | ']' :: rest =>
            let n := countOf ds
            some (.ok (.repeated c (if n = 0 then none else some n)), rest)
          | _ => none
        | _ => none
      | _ => none
    match special with
    | some (.error text, _) => .error text
    | some (.ok item, rest) => (items fuel rest).map (item :: ·)
    | none =>
      match character cs with
      | none => .ok []
      | some (c, _, '-' :: rest) =>
        match character rest with
        | some (d, _, behind) =>
          if d < c then
            let range := quoteText (String.ofList [c, '-', d])
            .error s!"range-endpoints of {range} are in reverse collating sequence order"
          else
            let chars := (List.range (d.toNat - c.toNat + 1)).map fun n => Char.ofNat (c.toNat + n)
            (items fuel behind).map (.chars chars :: ·)
        | none => (items fuel ('-' :: rest)).map (.chars [c] :: ·)
      | some (c, _, rest) => (items fuel rest).map (.chars [c] :: ·)

def parse (text : Octets) : Except Octets (List Item) := items (text.length + 1) text.toList

def upperChars : List Char := allChars.filter Char.isUpper
def lowerChars : List Char := allChars.filter Char.isLower

/-- The characters of a set; a repetition without a count fills up to a length. -/
def expand (length : Nat) (all : List Item) : List Char :=
  let known := (all.map fun
    | .chars cs => cs.length
    | .upper | .lower => 26
    | .repeated _ (some n) => n
    | .repeated _ none => 0).foldl (· + ·) 0
  all.flatMap fun
    | .chars cs => cs
    | .upper => upperChars
    | .lower => lowerChars
    | .repeated c (some n) => List.replicate n c
    | .repeated c none => List.replicate (length - known) c

/-- What each character becomes. -/
def table (source target : List Char) (cuts : Bool) : Char → Char :=
  let target := if cuts then target
    else target ++ List.replicate (source.length - target.length) (target.getLastD 'x')
  let pairs := (source.zip target).toArray
  let filled := pairs.foldl (fun (t : Array Char) (c, d) => t.setIfInBounds c.toNat d)
    allChars.toArray
  fun c => (filled[c.toNat]?).getD c

/-- Keeps one of the characters of a set that stand in a row. -/
def squeeze (pass : Char → Bool) (cs : List Char) : List Char :=
  let step (s : List Char × Option Char) (c : Char) : List Char × Option Char :=
    if s.2 = some c && pass c then s else (c :: s.1, some c)
  (cs.foldl step ([], none)).1.reverse

def memberOf (cs : List Char) : Char → Bool :=
  let marks := cs.foldl (fun (t : Array Bool) c => t.setIfInBounds c.toNat true)
    (Array.replicate 256 false)
  fun c => (marks[c.toNat]?).getD false

end Translation

open Translation in
def tr (words : List Octets) : Tool Unit := do
  let (found, sets) ← Options.read {
    letters := "cCdst"
    inFront := true
    long := [("complement", 'c'), ("delete", 'd'), ("squeeze-repeats", 's'),
      ("truncate-set1", 't')] } words
  let inverse := Given.has found "c" || Given.has found "C"
  let deletes := Given.has found "d"
  let squeezes := Given.has found "s"
  let least := if deletes = squeezes then 2 else 1
  let most := if deletes && !squeezes then 1 else 2
  match sets with
  | [] => Tool.misuse "missing operand"
  | first :: _ =>
    if sets.length < least then
      Tool.warn s!"missing operand after {quoteText first}"
      let name := (← get).name
      let rule := if deletes then
          "Two strings must be given when both deleting and squeezing repeats."
        else "Two strings must be given when translating."
      Tool.tell s!"{rule}\nTry '{name} --help' for more information.\n"
      throw 1
    if most < sets.length then
      let extra := quoteText ((sets[most]?).getD "")
      if most = 1 && sets.length = 2 then
        Tool.warn s!"extra operand {extra}"
        let name := (← get).name
        Tool.tell s!"Only one string may be given when deleting without squeezing repeats.\nTry '{name} --help' for more information.\n"
        throw 1
      else Tool.misuse s!"extra operand {extra}"
    let items (text : Octets) : Tool (List Item) :=
      match parse text with
      | .ok items => pure items
      | .error text => Tool.fail text
    let firstItems ← items first
    let secondItems? ← match sets with
      | [_, second] => some <$> items second
      | _ => pure none
    let source := expand 0 firstItems
    let isIn := memberOf source
    let source := if inverse then allChars.filter fun c => !isIn c else source
    let isIn := memberOf source
    let target := (secondItems?.map (expand source.length)).getD []
    let isSecond := memberOf target
    let text ← match ← Tool.readAll 0 with
      | .ok text => pure text
      | .error fault => Tool.fail s!"read error: {fault.text}"
    let cs := text.toList
    let made ←
      if deletes then
        let kept := cs.filter fun c => !isIn c
        pure (if squeezes then squeeze isSecond kept else kept)
      else if secondItems?.isNone then pure (squeeze isIn cs)
      else
        if target.isEmpty && !Given.has found "t" && !source.isEmpty then
          Tool.fail "when not truncating set1, string2 must be non-empty"
        let mapped := cs.map (table source target (Given.has found "t"))
        pure (if squeezes then squeeze isSecond mapped else mapped)
    Tool.print (String.ofList made)

end AssetWatch.Utility
