import AssetWatch.Shell.Pattern
import AssetWatch.Utility.Input
import AssetWatch.Utility.Regex

/-!
# Searching for lines

Lines that a pattern matches, or those that none matches, with what stands around them. The
status tells whether there was one.
-/

namespace AssetWatch.Utility

open Host (Fault Kind)

namespace Searching

/-- What is searched for, and what is shown. -/
structure Query where
  patterns : List Regex
  foldCase : Bool := false
  inverse : Bool := false
  /-- a match stands between borders of words -/
  wholeWords : Bool := false
  /-- a match is a whole line -/
  wholeLines : Bool := false
  onlyMatches : Bool := false
  counts : Bool := false
  quiet : Bool := false
  /-- only names are shown: of files with lines, or without -/
  names? : Option Bool := none
  numbers : Bool := false
  offsets : Bool := false
  withNames : Bool := false
  most? : Option Nat := none
  before : Nat := 0
  behind : Nat := 0
  hasContext : Bool := false
  asText : Bool := false
  ending : Char := '\n'

namespace Query

/-- Whether a match may count. -/
def allows (q : Query) (s : Regex.Subject) (first last : Nat) : Bool :=
  (!q.wholeWords || (!s.isWordBefore first && !s.isWordAt last)) &&
    (!q.wholeLines || (first = 0 && last = s.chars.size))

/-- The longest match that counts among those that begin at a position. -/
def endAt? (q : Query) (s : Regex.Subject) (i : Nat) : Option Nat :=
  let lasts := q.patterns.flatMap fun e => (Regex.ends s e.refers e (i, [])).map (·.1)
  (lasts.filter (q.allows s i)).max?

/-- The first match from a position on. -/
def find? (q : Query) (s : Regex.Subject) : (fuel : Nat) → (i : Nat) → Option (Nat × Nat)
  | 0, _ => none
  | fuel + 1, i =>
    if s.chars.size < i || (q.wholeLines && 0 < i) then none
    else
      let isFutile := q.patterns.all fun e => match e.firstChar? with
        | some c => !((s.at? i).map (s.same c)).getD false
        | none => false
      match if isFutile then none else q.endAt? s i with
      | some last => some (i, last)
      | none => q.find? s fuel (i + 1)

/-- All matches one behind the other. -/
def allMatches (q : Query) (s : Regex.Subject) : (fuel : Nat) → (i : Nat) → List (Nat × Nat)
  | 0, _ => []
  | fuel + 1, i =>
    match q.find? s (s.chars.size + 2) i with
    | none => []
    | some (first, last) =>
      if first = last then q.allMatches s fuel (first + 1)
      else (first, last) :: q.allMatches s fuel last

def subject (q : Query) (line : Octets) : Regex.Subject :=
  { chars := line.toList.toArray, foldCase := q.foldCase }

def selects (q : Query) (line : Octets) : Bool :=
  let s := q.subject line
  (q.find? s (s.chars.size + 2) 0).isSome != q.inverse

/-- The parts of a line that match. -/
def parts (q : Query) (line : Octets) : List (Nat × Octets) :=
  let s := q.subject line
  (q.allMatches s (s.chars.size + 2) 0).map fun (first, last) =>
    (first, String.ofList ((s.chars.toList.drop first).take (last - first)))

/-- What stands in front of a line. -/
def front (q : Query) (name : Octets) (mark : String) (number offset : Nat) : Octets :=
  (if q.withNames then name ++ mark else "") ++
    (if q.numbers then toString number ++ mark else "") ++
    (if q.offsets then toString offset ++ mark else "")

end Query

/-- Lines with their numbers and offsets, and whether each is selected. -/
def judged (q : Query) (lines : List Octets) : List (Octets × Nat × Nat × Bool) :=
  let step (s : List (Octets × Nat × Nat × Bool) × Nat × Nat × Nat) (line : Octets) :=
    let (taken, number, offset, found) := s
    let isOpen := (q.most?.map (decide <| found < ·)).getD true
    let hit := isOpen && q.selects line
    ((line, number, offset, hit) :: taken, number + 1, offset + line.length + 1,
      if hit then found + 1 else found)
  (lines.foldl step ([], 1, 0, 0)).1.reverse

/-- The lines that are shown of a file. -/
def shownLines (q : Query) (name : Octets) (all : List (Octets × Nat × Nat × Bool)) :
    List Octets :=
  let hits := (all.filter (·.2.2.2)).map (·.2.1)
  if q.onlyMatches then
    if q.inverse then []
    else all.flatMap fun (line, number, offset, hit) =>
      if hit then (q.parts line).map fun (place, text) =>
        q.front name ":" number (offset + place) ++ text
      else []
  else if !q.hasContext then
    all.filterMap fun (line, number, offset, hit) =>
      if hit then some (q.front name ":" number offset ++ line) else none
  else
    let isNear (n : Nat) : Bool := hits.any fun h => h ≤ n + q.before && n ≤ h + q.behind
    let step (s : List Octets × Option Nat) (entry : Octets × Nat × Nat × Bool) :=
      let (line, number, offset, hit) := entry
      if !isNear number then s
      else
        let gap := match s.2 with
          | some last => if last + 1 < number then ["--"] else []
          | none => []
        let mark := if hit then ":" else "-"
        ((q.front name mark number offset ++ line) :: (gap ++ s.1), some number)
    (all.foldl step ([], none)).1.reverse

/-- Searches a text, and tells whether something was found. -/
def searchText (q : Query) (path text : Octets) : Tool Bool := do
  let name := if path = "-" then "(standard input)" else path
  let all := judged q (linesOf q.ending text)
  let count := (all.filter (·.2.2.2)).length
  let found := 0 < count
  if q.quiet then return found
  match q.names? with
  | some wanted =>
    if found = wanted then Tool.printLine name
    return found
  | none =>
    if q.counts then
      Tool.printLine ((if q.withNames then name ++ ":" else "") ++ toString count)
    else if found && !q.asText && q.ending ≠ '\x00' && text.toList.contains '\x00' then
      let own := (← get).name
      Tool.printLine s!"{own}: {name}: binary file matches"
    else Tool.print (joinLines q.ending (shownLines q name all))
    return found

/-- What a search goes into. -/
structure Scope where
  recursive : Bool := false
  silent : Bool := false
  included : List Shell.Pattern := []
  excluded : List Shell.Pattern := []
  excludedFolders : List Shell.Pattern := []
  skipsFolders : Bool := false

def Scope.allows (s : Scope) (name : Octets) : Bool :=
  (s.included.isEmpty || s.included.any (·.isMatch name.toList)) &&
    !s.excluded.any (·.isMatch name.toList)

def baseName (path : Octets) : Octets := ((path.splitOn "/").filter (· ≠ "")).getLastD path

def report (s : Scope) (path : Octets) (fault : Fault) : Tool Unit := do
  if !s.silent then Tool.warn s!"{path}: {fault.text}"
  Tool.setStatus 2

/-- Searches a file, or what is below a directory. -/
def searchPath (q : Query) (s : Scope) : (fuel : Nat) → (isOperand : Bool) → (path shown : Octets) →
    Tool Bool
  | 0, _, _, _ => pure false
  | fuel + 1, isOperand, path, shown => do
    if path = "-" then
      match ← Tool.readAll 0 with
      | .ok text => searchText q "-" text
      | .error fault =>
        report s "(standard input)" fault
        return false
    else if s.recursive && (← Tool.isDirectory path) then
      match ← Tool.ask (.list path) with
      | .error fault =>
        report s shown fault
        return false
      | .ok names =>
        let mut found := false
        for name in names do
          let inner := if path.endsWith "/" then path ++ name else s!"{path}/{name}"
          let innerShown := if shown = "" then name
            else if shown.endsWith "/" then shown ++ name else s!"{shown}/{name}"
          let kind := (← Tool.statusOf? inner false).map (·.kind)
          let skipped := match kind with
            | some .directory => s.excludedFolders.any (·.isMatch name.toList)
            | some .file => !s.allows name
            | _ => true
          if !skipped then
            if ← searchPath q s fuel false inner innerShown then found := true
        return found
    else if isOperand && !s.allows (baseName path) then return false
    else match ← Tool.readFile path with
      | .ok text => searchText q shown text
      | .error .isDirectory =>
        if !s.skipsFolders then report s shown .isDirectory
        return false
      | .error fault =>
        report s shown fault
        return false

/-- Words in which a number as an option is a proper one. -/
def modern (words : List Octets) : List Octets :=
  words.flatMap fun word =>
    if word.startsWith "-" && isDigits (word.drop 1).toString then ["-C", (word.drop 1).toString]
    else [word]

def options : Options := {
  letters := "A:B:C:EFGHILPTUVX:abcd:e:f:hiyKlm:noqRrsuvwxZz"
  misused := 2
  long := [("after-context", 'A'), ("before-context", 'B'), ("context", 'C'),
    ("extended-regexp", 'E'), ("fixed-strings", 'F'), ("basic-regexp", 'G'),
    ("with-filename", 'H'), ("files-without-match", 'L'), ("perl-regexp", 'P'), ("text", 'a'),
    ("byte-offset", 'b'), ("count", 'c'), ("regexp", 'e'), ("file", 'f'), ("no-filename", 'h'),
    ("ignore-case", 'i'), ("files-with-matches", 'l'), ("max-count", 'm'), ("line-number", 'n'),
    ("only-matching", 'o'), ("quiet", 'q'), ("silent", 'q'), ("recursive", 'r'),
    ("dereference-recursive", 'R'), ("no-messages", 's'), ("invert-match", 'v'),
    ("word-regexp", 'w'), ("line-regexp", 'x'), ("null-data", 'z'), ("directories", 'd')]
  words := [("include", .required), ("exclude", .required), ("exclude-dir", .required),
    ("color", .optional), ("colour", .optional), ("line-buffered", .none),
    ("no-ignore-case", .none), ("binary-files", .required), ("label", .required)] }

/-- Reads the patterns. -/
def compile (dialect? : Option String) (texts : List Octets) : Tool (List Regex) := do
  let mut patterns : Array Regex := #[]
  for text in texts do
    if dialect? == some "F" then patterns := patterns.push (Regex.literal text)
    else
      let dialect := if dialect?.isSome && dialect? != some "G" then Regex.Dialect.extended else .basic
      match Regex.parse dialect text with
      | .ok (e, _) => patterns := patterns.push e
      | .error wrong => Tool.fail wrong 2
  return patterns.toList

def main (preset? : Option String) (words : List Octets) : Tool Unit := do
  let (found, operands) ← options.read (modern words)
  let has := Given.has found
  let number (name : String) : Tool (Option Nat) := match Given.value? found name with
    | none => pure none
    | some value => match value.toNat? with
      | some n => pure (some n)
      | none => Tool.fail (if name = "m" then "invalid max count"
          else s!"{value}: invalid context length argument") 2
  let mut given : Array Octets := #[]
  for g in found do
    if g.name = "e" then given := given.push g.value
    else if g.name = "f" then
      match ← Tool.readFile g.value with
      | .ok text => given := given ++ (linesOf '\n' text).toArray
      | .error fault => Tool.fail s!"{g.value}: {fault.text}" 2
  let own := has "e" || has "f"
  if !own && operands.isEmpty then
    let name := (← get).name
    Tool.tell s!"Usage: {name} [OPTION]... PATTERNS [FILE]...\nTry '{name} --help' for more information.\n"
    throw 2
  let (texts, paths) := if own then (given.toList, operands)
    else ([operands.headD ""], operands.drop 1)
  let dialect? := match Given.last? found ["E", "F", "G", "P"] with
    | some g => some g.name
    | none => preset?
  let patterns ← compile dialect? (if texts.isEmpty then [] else
    texts.flatMap fun text => text.splitOn "\n")
  let recursive := has "r" || has "R"
  let context ← number "C"
  let isDeep ← match paths with
    | [] => pure true
    | [path] => Tool.isDirectory path
    | _ => pure true
  let named : Bool := match Given.last? found ["H", "h"] with
    | some g => g.name == "H"
    | none => decide (1 < paths.length) || (recursive && isDeep)
  let after ← number "A"
  let before ← number "B"
  let q : Query := {
    patterns
    foldCase := has "i" || has "y"
    inverse := has "v"
    wholeWords := has "w"
    wholeLines := has "x"
    onlyMatches := has "o"
    counts := has "c"
    quiet := has "q"
    names? := (Given.last? found ["l", "L"]).map (·.name == "l")
    numbers := has "n"
    offsets := has "b"
    withNames := named
    most? := ← number "m"
    before := (before.orElse fun _ => context).getD 0
    behind := (after.orElse fun _ => context).getD 0
    hasContext := (before.orElse fun _ => after.orElse fun _ => context).isSome
    asText := has "a"
    ending := if has "z" then '\x00' else '\n' }
  let globs (name : String) : List Shell.Pattern :=
    (found.filter (·.name == name)).map fun g =>
      Shell.Pattern.ofGlyphs (g.value.toList.map fun c => (c, false))
  let s : Scope := {
    recursive
    silent := has "s"
    included := globs "include"
    excluded := globs "exclude"
    excludedFolders := globs "exclude-dir"
    skipsFolders := (Given.value? found "d") == some "skip" }
  let mut any := false
  if paths.isEmpty then
    if recursive then any ← searchPath q s Tool.endless false "." ""
    else any ← searchPath q s Tool.endless true "-" "-"
  else
    for path in paths do
      if ← searchPath q s Tool.endless true path path then any := true
  let failed := (← get).status = 2
  if !(failed && !(any && q.quiet)) then Tool.setStatus (if any then 0 else 1)

end Searching

def grep : List Octets → Tool Unit := Searching.main none
def egrep : List Octets → Tool Unit := Searching.main (some "E")
def fgrep : List Octets → Tool Unit := Searching.main (some "F")

end AssetWatch.Utility
