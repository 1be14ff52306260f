import AssetWatch.Utility.Input

/-!
# Sorting lines

Lines are compared by keys, each a stretch of fields looked at in its own way; lines that are
equal by all keys are compared octet by octet. Fields are parted by a separator, or else begin
with the blanks in front of them.
-/

namespace AssetWatch.Utility

namespace Sorting

def isBlank (c : Char) : Bool := c = ' ' || c = '\t' || c = '\n'

/-! ## Ways to look at a key -/

/-- A number in front, as its sign and its digits before and behind the point. -/
structure Numeral where
  negative : Bool
  whole : List Char
  decimals : List Char

namespace Numeral

def ofChars (cs : List Char) : Numeral × List Char :=
  let cs := cs.dropWhile isBlank
  let (negative, cs) := match cs with
    | '-' :: rest => (true, rest)
    | cs => (false, cs)
  let (whole, rest) := cs.span Char.isDigit
  let (decimals, rest) := match rest with
    | '.' :: more => more.span Char.isDigit
    | rest => ([], rest)
  ({ negative, whole, decimals }, rest)

/-- The number, as so many parts of a power of ten. -/
def scaled (n : Numeral) (places : Nat) : Int :=
  let ds := n.whole ++ n.decimals ++ List.replicate (places - n.decimals.length) '0'
  let value := ds.foldl (fun n c => n * 10 + (c.toNat - '0'.toNat)) 0
  if n.negative then -(value : Int) else value

def compare (a b : Numeral) : Ordering :=
  let places := max a.decimals.length b.decimals.length
  compareOfLessAndEq (a.scaled places) (b.scaled places)

end Numeral

/-- Which power a suffix of a size stands for. -/
def sizeOrder (cs : List Char) : Nat :=
  match cs.head? with
  | some 'k' | some 'K' => 1
  | some c => ((("MGTPEZY".toList).findIdx? (· = c)).map (· + 2)).getD 0
  | none => 0

def compareSizes (a b : List Char) : Ordering :=
  let (m, as) := Numeral.ofChars a
  let (n, bs) := Numeral.ofChars b
  let rank (x : Numeral) (cs : List Char) : Int :=
    let isZero := (x.whole ++ x.decimals).all (· = '0')
    let order : Int := sizeOrder cs
    if isZero then 0 else if x.negative then -(order + 1) else order + 1
  (compareOfLessAndEq (rank m as) (rank n bs)).then (m.compare n)

/-- A number with an exponent, as a quotient; texts that are no number come first. -/
def general? (cs : List Char) : Option (Int × Nat) :=
  let cs := cs.dropWhile isBlank
  let cs := match cs with
    | '+' :: rest => rest
    | cs => cs
  let (n, rest) := Numeral.ofChars cs
  if n.whole.isEmpty && n.decimals.isEmpty then none
  else
    let exponent : Int := match rest with
      | e :: more =>
        if e = 'e' || e = 'E' then
          let (minus, ds) := match more with
            | '-' :: ds => (true, ds)
            | '+' :: ds => (false, ds)
            | ds => (false, ds)
          let value := ((ds.takeWhile Char.isDigit).take 4).foldl
            (fun n c => n * 10 + (c.toNat - '0'.toNat)) 0
          if minus then -(value : Int) else value
        else 0
      | [] => 0
    let places := n.decimals.length
    let value := n.scaled places
    if 0 ≤ exponent then some (value * 10 ^ exponent.toNat, 10 ^ places)
    else some (value, 10 ^ (places + (-exponent).toNat))

def compareGeneral (a b : List Char) : Ordering :=
  match general? a, general? b with
  | none, none => .eq
  | none, some _ => .lt
  | some _, none => .gt
  | some (m, p), some (n, q) => compareOfLessAndEq (m * q) (n * p)

def months : List String :=
  ["JAN", "FEB", "MAR", "APR", "MAY", "JUN", "JUL", "AUG", "SEP", "OCT", "NOV", "DEC"]

def month (cs : List Char) : Nat :=
  let name := String.ofList (((cs.dropWhile isBlank).take 3).map Char.toUpper)
  ((months.findIdx? (· == name)).map (· + 1)).getD 0

/-- Versions: stretches without digits are compared in an order in which a tilde comes before
the end, stretches of digits as numbers. -/
def compareVersions : (fuel : Nat) → List Char → List Char → Ordering
  | 0, _, _ => .eq
  | fuel + 1, a, b =>
    if a.isEmpty && b.isEmpty then .eq
    else
      let rank (c? : Option Char) : Int := match c? with
        | none => 0
        | some c => if c.isDigit then 0 else if c.isAlpha then c.toNat
          else if c = '~' then -1 else c.toNat + 256
      let (p, as) := a.span fun c => !c.isDigit
      let (q, bs) := b.span fun c => !c.isDigit
      let words := (List.range (max p.length q.length)).foldl (fun (o : Ordering) i =>
        o.then (compareOfLessAndEq (rank p[i]?) (rank q[i]?))) .eq
      let (ds, as) := as.span Char.isDigit
      let (es, bs) := bs.span Char.isDigit
      let value (ds : List Char) : Nat := ds.foldl (fun n c => n * 10 + (c.toNat - '0'.toNat)) 0
      (words.then (compareOfLessAndEq (value ds) (value es))).then (compareVersions fuel as bs)

/-! ## Keys -/

structure Key where
  startField : Nat := 0
  startChar : Nat := 0
  skipsStart : Bool := false
  endField? : Option Nat := none
  endChar : Nat := 0
  skipsEnd : Bool := false
  flags : List Char := []

namespace Key

def has (k : Key) (c : Char) : Bool := k.flags.contains c

/-- What follows so many fields. -/
def dropFields (separator? : Option Char) : Nat → List Char → List Char
  | 0, cs => cs
  | n + 1, cs =>
    match separator? with
    | some c => dropFields separator? n ((cs.dropWhile (· ≠ c)).drop 1)
    | none => dropFields separator? n ((cs.dropWhile isBlank).dropWhile fun c => !isBlank c)

/-- How far so many whole fields go. -/
def fieldsLength (separator? : Option Char) : Nat → List Char → Nat
  | 0, _ => 0
  | n + 1, cs =>
    match separator? with
    | some c =>
      let field := cs.takeWhile (· ≠ c)
      let rest := cs.drop field.length
      if n = 0 || rest.isEmpty then field.length
      else field.length + 1 + fieldsLength separator? n (rest.drop 1)
    | none =>
      let blanks := cs.takeWhile isBlank
      let word := (cs.drop blanks.length).takeWhile fun c => !isBlank c
      let length := blanks.length + word.length
      length + fieldsLength separator? n (cs.drop length)

/-- The stretch of a line that a key is about. -/
def part (k : Key) (separator? : Option Char) (cs : List Char) : List Char :=
  let rest := dropFields separator? k.startField cs
  let rest := if k.skipsStart then rest.dropWhile isBlank else rest
  let rest := rest.drop k.startChar
  let start := cs.length - rest.length
  let finish := match k.endField? with
    | none => cs.length
    | some field =>
      if k.endChar = 0 then fieldsLength separator? (field + 1) cs
      else
        let behind := dropFields separator? field cs
        let behind := if k.skipsEnd then behind.dropWhile isBlank else behind
        min cs.length (cs.length - behind.length + k.endChar)
  rest.take (finish - start)

def compareChars (k : Key) (a b : List Char) : Ordering :=
  let view (cs : List Char) : String :=
    let cs := if k.has 'd' then cs.filter fun c => isBlank c || c.isAlphanum else cs
    let cs := if k.has 'i' then cs.filter fun c => ' ' ≤ c && c.toNat < 127 else cs
    String.ofList (if k.has 'f' then cs.map Char.toUpper else cs)
  if k.has 'n' then (Numeral.ofChars a).1.compare (Numeral.ofChars b).1
  else if k.has 'h' then compareSizes a b
  else if k.has 'g' then compareGeneral a b
  else if k.has 'M' then compareOfLessAndEq (month a) (month b)
  else if k.has 'V' then compareVersions (a.length + b.length + 1) a b
  else compareOfLessAndEq (view a) (view b)

def compare (k : Key) (separator? : Option Char) (a b : List Char) : Ordering :=
  let o := k.compareChars (k.part separator? a) (k.part separator? b)
  if k.has 'r' then o.swap else o

/-- One end of a key: a field, a character in it, and letters. -/
def position? (text : Octets) : Option (Nat × Option Nat × List Char) :=
  let (field, rest) := text.toList.span Char.isDigit
  let (char?, letters) := match rest with
    | '.' :: more =>
      let (ds, rest) := more.span Char.isDigit
      ((String.ofList ds).toNat?, rest)
    | rest => (none, rest)
  if letters.all fun c => "bdfgihMnRrV".toList.contains c then
    ((String.ofList field).toNat?).map fun n => (n, char?, letters)
  else none

/-- A key as it is written; the text tells what is wrong. -/
def parse (text : Octets) : Except Octets Key :=
  let (start, rest) := text.toList.span (· ≠ ',')
  let bad : Except Octets Key :=
    .error s!"invalid number at field start: invalid count at start of {quoteText text}"
  match position? (String.ofList start) with
  | none => bad
  | some (field, char?, letters) =>
    if field = 0 then .error s!"field number is zero: invalid field specification {quoteText text}"
    else if char? = some 0 then
      .error s!"character offset is zero: invalid field specification {quoteText text}"
    else
      let k : Key := {
        startField := field - 1
        startChar := (char?.getD 1) - 1
        skipsStart := letters.contains 'b'
        flags := letters.filter (· ≠ 'b') }
      if rest.isEmpty then .ok k
      else match position? (String.ofList (rest.drop 1)) with
        | none =>
          let behind := quoteText (String.ofList (rest.drop 1))
          .error s!"invalid number after ',': invalid count at start of {behind}"
        | some (0, _, _) =>
          .error s!"field number is zero: invalid field specification {quoteText text}"
        | some (field, char?, letters) =>
          .ok { k with
            endField? := some (field - 1)
            endChar := char?.getD 0
            skipsEnd := letters.contains 'b'
            flags := k.flags ++ letters.filter (· ≠ 'b') }

end Key

end Sorting

open Sorting in
def sort (words : List Octets) : Tool Unit := do
  let (found, paths) ← Options.read {
    letters := "bcCdfghik:mMno:rRsS:t:T:uVz"
    misused := 2
    long := [("ignore-leading-blanks", 'b'), ("dictionary-order", 'd'), ("ignore-case", 'f'),
      ("general-numeric-sort", 'g'), ("ignore-nonprinting", 'i'), ("month-sort", 'M'),
      ("human-numeric-sort", 'h'), ("numeric-sort", 'n'), ("random-sort", 'R'), ("reverse", 'r'),
      ("version-sort", 'V'), ("key", 'k'), ("merge", 'm'), ("output", 'o'), ("stable", 's'),
      ("buffer-size", 'S'), ("field-separator", 't'), ("temporary-directory", 'T'),
      ("unique", 'u'), ("zero-terminated", 'z')]
    words := [("check", .optional), ("parallel", .required)] } words
  let has := Given.has found
  let globals := (found.flatMap fun g => g.name.toList).filter fun c =>
    "dfghiMnRrV".toList.contains c
  let mut keys : Array Key := #[]
  for g in found do
    if g.name = "k" then
      match Key.parse g.value with
      | .error text => Tool.fail text 2
      | .ok k =>
        let isPlain := k.flags.isEmpty && !k.skipsStart && !k.skipsEnd
        keys := keys.push (if isPlain then
          { k with flags := globals, skipsStart := has "b", skipsEnd := has "b" } else k)
  let separator? ← match Given.value? found "t" with
    | none => pure none
    | some text => match text.toList with
      | [c] => pure (some c)
      | ['\\', '0'] => pure (some '\x00')
      | [] => Tool.fail "empty tab" 2
      | _ => Tool.fail s!"multi-character tab {quoteText text}" 2
  let all := if keys.isEmpty then
      if globals.all (· = 'r') && !has "b" then [] else [{ flags := globals, skipsStart := has "b" }]
    else keys.toList
  let reversed := globals.contains 'r'
  let byKeys (a b : List Char) : Ordering :=
    all.foldl (fun o k => o.then (k.compare separator? a b)) .eq
  let compare (a b : Octets × List Char) : Ordering :=
    let o := byKeys a.2 b.2
    if o ≠ .eq || ((has "s" || has "u") && !all.isEmpty) then o
    else
      let o := compareOfLessAndEq a.1 b.1
      if reversed then o.swap else o
  let ending := if has "z" then '\x00' else '\n'
  let mut lines : Array (List Octets) := #[]
  for path in if paths.isEmpty then ["-"] else paths do
    match ← Tool.readFile path with
    | .ok text => lines := lines.push (linesOf ending text)
    | .error fault =>
      let verb := if fault = .isDirectory then "read failed" else "cannot read"
      Tool.fail s!"{verb}: {showName path}: {fault.text}" 2
  let viewed := lines.toList.flatten.map fun line => (line, line.toList)
  if has "c" || has "C" || has "check" then
    let isQuiet := has "C" || (Given.value? found "check") == some "quiet" ||
      (Given.value? found "check") == some "silent"
    let isWrong (a b : Octets × List Char) : Bool :=
      let o := compare a b
      o == .gt || (has "u" && o == .eq)
    let pairs := (viewed.zip (viewed.drop 1)).zipIdx
    match pairs.find? fun ((a, b), _) => isWrong a b with
    | none => return
    | some ((_, b), i) =>
      if !isQuiet then
        let name := paths.headD "-"
        Tool.warn s!"{name}:{i + 2}: disorder: {b.1}"
      throw 1
  let sorted := viewed.mergeSort fun a b => compare a b != .gt
  let step (taken : List (Octets × List Char)) (line : Octets × List Char) :=
    match taken with
    | last :: _ => if has "u" && compare last line == .eq then taken else line :: taken
    | [] => [line]
  let chosen := ((sorted.foldl step []).reverse).map (·.1)
  let text := joinLines ending chosen
  match Given.value? found "o" with
  | none => Tool.print text
  | some path =>
    match ← Tool.writeFile path text with
    | .ok _ => pure ()
    | .error fault => Tool.fail s!"open failed: {showName path}: {fault.text}" 2

/-! ## Lines that are the same -/

/-- Lines in groups of neighbours that are the same. -/
def groupsOf (same : Octets → Octets → Bool) (lines : List Octets) : List (List Octets) :=
  let step (groups : List (List Octets)) (line : Octets) : List (List Octets) :=
    match groups with
    | (last :: others) :: rest =>
      if same last line then (last :: line :: others) :: rest else [line] :: groups
    | groups => [line] :: groups
  ((lines.foldl step []).map fun
    | first :: others => first :: others.reverse
    | [] => []).reverse

def uniq (words : List Octets) : Tool Unit := do
  let (found, operands) ← Options.read {
    letters := "cdDf:is:uw:z"
    long := [("count", 'c'), ("repeated", 'd'), ("all-repeated", 'D'), ("skip-fields", 'f'),
      ("ignore-case", 'i'), ("skip-chars", 's'), ("unique", 'u'), ("check-chars", 'w'),
      ("zero-terminated", 'z')] } words
  let has := Given.has found
  let count (name : String) (what : Octets) : Tool (Option Nat) :=
    match Given.value? found name with
    | none => pure none
    | some value => match sized? value with
      | some n => pure (some n)
      | none => Tool.fail s!"{value}: invalid number of {what}"
  let skipFields := (← count "f" "fields to skip").getD 0
  let skipChars := (← count "s" "bytes to skip").getD 0
  let width? ← count "w" "bytes to compare"
  let ending := if has "z" then '\x00' else '\n'
  let path := operands.headD "-"
  let text ← match ← Tool.readFile path with
    | .ok text => pure text
    | .error fault => Tool.fail (plainReport path fault)
  let view (line : Octets) : List Char :=
    let cs := Sorting.Key.dropFields none skipFields line.toList
    let cs := cs.drop skipChars
    let cs := match width? with
      | some n => cs.take n
      | none => cs
    if has "i" then cs.map Char.toLower else cs
  let groups := groupsOf (fun a b => view a == view b) (linesOf ending text)
  let shown := groups.flatMap fun g =>
    let isOne := g.length = 1
    if has "D" then if isOne then [] else g
    else if (has "d" && isOne) || (has "u" && !isOne) then []
    else
      let first := g.headD ""
      [if has "c" then padLeft 7 (toString g.length) ++ " " ++ first else first]
  let made := joinLines ending shown
  match operands with
  | _ :: target :: _ =>
    match ← Tool.writeFile target made with
    | .ok _ => pure ()
    | .error fault => Tool.fail (plainReport target fault)
  | _ => Tool.print made

end AssetWatch.Utility
