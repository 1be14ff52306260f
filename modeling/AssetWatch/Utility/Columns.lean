import AssetWatch.Utility.Input

/-!
# Columns of lines

Parts of lines by their positions, and lines that are put side by side.
-/

namespace AssetWatch.Utility

/-! ## Positions -/

/-- Positions from one on; without a last one, all that follow. -/
abbrev Span := Nat × Option Nat

def inSpans (spans : List Span) (n : Nat) : Bool :=
  spans.any fun (first, last?) => first ≤ n && (last?.map (decide <| n ≤ ·)).getD true

/-- One span of a list; the text tells what is wrong. -/
def span? (kind item : Octets) : Except Octets Span :=
  let invalid : Except Octets Span := .error s!"invalid {kind} {quoteText item}"
  let zero : Octets := if kind = "field value" then "fields are numbered from 1"
    else "byte/character positions are numbered from 1"
  match item.splitOn "-" with
  | [single] => match single.toNat? with
    | some 0 => .error zero
    | some n => .ok (n, some n)
    | none => invalid
  | [first, last] =>
    if first = "" && last = "" then .error "invalid range with no endpoint: -"
    else if (first ≠ "" && !isDigits first) || (last ≠ "" && !isDigits last) then invalid
    else
      let low := (first.toNat?).getD 1
      let high? := last.toNat?
      if low = 0 || high? = some 0 then .error zero
      else if (high?.map (decide <| · < low)).getD false then .error "invalid decreasing range"
      else .ok (low, high?)
  | _ => invalid

def spans? (kind list : Octets) : Except Octets (List Span) :=
  ((list.toList.map fun c => if c = ' ' || c = '\t' then ',' else c) |> String.ofList).splitOn ","
    |>.mapM (span? kind)

/-- Runs of chosen things, numbered from one. -/
def runs {α : Type} (pass : Nat → Bool) (all : List α) : List (List α) :=
  let step (s : List (List α) × Bool) (item : α × Nat) : List (List α) × Bool :=
    if !pass (item.2 + 1) then (s.1, false)
    else match s with
      | (run :: others, true) => ((item.1 :: run) :: others, true)
      | (done, _) => ([item.1] :: done, true)
  ((all.zipIdx.foldl step ([], false)).1.map List.reverse).reverse

def cut (words : List Octets) : Tool Unit := do
  let (found, paths) ← Options.read {
    letters := "b:c:d:f:nsz"
    long := [("bytes", 'b'), ("characters", 'c'), ("delimiter", 'd'), ("fields", 'f'),
      ("only-delimited", 's'), ("zero-terminated", 'z')]
    words := [("complement", .none), ("output-delimiter", .required)] } words
  let lists := found.filter fun g => g.name = "b" || g.name = "c" || g.name = "f"
  let (kind, list) ← match lists with
    | [] => Tool.misuse "you must specify a list of bytes, characters, or fields"
    | [g] => pure (g.name, g.value)
    | _ => Tool.misuse "only one list may be specified"
  let byField := kind = "f"
  let delimiter ← match Given.value? found "d" with
    | none => pure '\t'
    | some text =>
      if !byField then
        Tool.misuse "an input delimiter may be specified only when operating on fields"
      match text.toList with
      | [] => pure '\x00'
      | [c] => pure c
      | _ => Tool.misuse "the delimiter must be a single character"
  if !byField && Given.has found "s" then
    Tool.misuse "suppressing non-delimited lines makes sense\n\tonly when operating on fields"
  let spans ← match spans? (if byField then "field value" else "byte/character position") list with
    | .ok spans => pure spans
    | .error text => Tool.misuse text
  let isInverse := Given.has found "complement"
  let pass (n : Nat) : Bool := inSpans spans n != isInverse
  let joint? := Given.value? found "output-delimiter"
  let ending := if Given.has found "z" then '\x00' else '\n'
  for (_, text) in ← readFiles plainReport paths do
    for line in linesOf ending text do
      if byField then
        if !line.toList.contains delimiter then
          if !Given.has found "s" then Tool.print (line.push ending)
        else
          let fields := line.splitOn delimiter.toString
          let chosen := (fields.zipIdx.filter fun (_, i) => pass (i + 1)).map (·.1)
          Tool.print ((String.intercalate (joint?.getD delimiter.toString) chosen).push ending)
      else
        let chosen := (runs pass line.toList).map String.ofList
        Tool.print ((String.intercalate (joint?.getD "") chosen).push ending)

/-! ## Side by side -/

/-- The separators of a list, with escapes. -/
def separatorsOf : List Char → List Octets
  | [] => []
  | '\\' :: c :: rest =>
    let text := match c with
      | 'n' => "\n"
      | 't' => "\t"
      | '0' => ""
      | 'b' => "\x08"
      | 'f' => "\x0c"
      | 'r' => "\r"
      | 'v' => "\x0b"
      | c => c.toString
    text :: separatorsOf rest
  | c :: rest => c.toString :: separatorsOf rest

/-- Joins texts with separators taken in turn. -/
def joinWith (separators : List Octets) (texts : List Octets) : Octets :=
  match texts with
  | [] => ""
  | first :: rest =>
    let count := max separators.length 1
    first ++ String.join (rest.zipIdx.map fun (text, i) =>
      (separators[i % count]?).getD "" ++ text)

/-- The rows of columns, as long as one of them goes on. -/
def rowsOf (columns : List (List Octets)) : List (List Octets) :=
  let height := columns.foldl (fun n c => max n c.length) 0
  (List.range height).map fun i => columns.map fun column => (column[i]?).getD ""

def paste (words : List Octets) : Tool Unit := do
  let (found, paths) ← Options.read {
    letters := "d:sz"
    long := [("delimiters", 'd'), ("serial", 's'), ("zero-terminated", 'z')] } words
  let separators := separatorsOf ((Given.value? found "d").getD "\t").toList
  let ending := if Given.has found "z" then '\x00' else '\n'
  let paths := if paths.isEmpty then ["-"] else paths
  let mut columns : Array (List Octets) := #[]
  let dashes := (paths.filter (· = "-")).length
  let mut input : Option (List Octets) := none
  let mut dash := 0
  for path in paths do
    if path = "-" && 1 < dashes && !Given.has found "s" then
      let lines ← match input with
        | some lines => pure lines
        | none => pure (linesOf ending (((← Tool.readAll 0).toOption).getD ""))
      input := some lines
      let mine := (lines.zipIdx.filter fun (_, i) => i % dashes = dash).map (·.1)
      columns := columns.push mine
      dash := dash + 1
    else match ← Tool.readFile path with
      | .ok text => columns := columns.push (linesOf ending text)
      | .error fault => Tool.fail (plainReport path fault)
  let rows := if Given.has found "s" then columns.toList else rowsOf columns.toList
  Tool.print (joinLines ending (rows.map (joinWith separators)))

/-- Lines of two sorted lists, with the column in which each stands. -/
def merged : (fuel : Nat) → List Octets → List Octets → List (Nat × Octets)
  | 0, _, _ => []
  | _, [], bs => bs.map (2, ·)
  | _, as, [] => as.map (1, ·)
  | fuel + 1, a :: as, b :: bs =>
    if a < b then (1, a) :: merged fuel as (b :: bs)
    else if b < a then (2, b) :: merged fuel (a :: as) bs
    else (3, a) :: merged fuel as bs

def comm (words : List Octets) : Tool Unit := do
  let (found, paths) ← Options.read {
    letters := "123z", words := [("output-delimiter", .required), ("check-order", .none),
      ("nocheck-order", .none), ("total", .none)] } words
  let read (path : Octets) : Tool (List Octets) := do
    match ← Tool.readFile path with
    | .ok text => return linesOf '\n' text
    | .error fault => Tool.fail (plainReport path fault)
  match paths with
  | [a, b] =>
    let as ← read a
    let bs ← read b
    let joint := (Given.value? found "output-delimiter").getD "\t"
    let shown := ["1", "2", "3"].map fun n => !Given.has found n
    for (column, line) in merged (as.length + bs.length + 1) as bs do
      if (shown[column - 1]?).getD false then
        let gaps := (shown.take (column - 1)).filter id
        Tool.print (String.join (gaps.map fun _ => joint) ++ line ++ "\n")
  | [] => Tool.misuse "missing operand"
  | [a] => Tool.misuse s!"missing operand after {quoteText a}"
  | _ :: _ :: c :: _ => Tool.misuse s!"extra operand {quoteText c}"

end AssetWatch.Utility
