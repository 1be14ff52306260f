import AssetWatch.Shell.Pattern
import AssetWatch.Utility.Launching
import AssetWatch.Utility.Listing

/-!
# Finding entries

Below each starting point every entry is looked at, and an expression decides what is done
with it: tests are joined by operators, and actions are tests that do something.
-/

namespace AssetWatch.Utility

open Host (Kind Status)

/-- How a number compares: less, equal or more. -/
inductive Amount
  | less (n : Nat)
  | exactly (n : Nat)
  | more (n : Nat)

namespace Amount

def parse? (text : Octets) : Option Amount :=
  match text.toList with
  | '-' :: _ => (text.drop 1).toNat?.map .less
  | '+' :: _ => (text.drop 1).toNat?.map .more
  | _ => text.toNat?.map .exactly

def holds : Amount → Nat → Bool
  | .less n, k => k < n
  | .exactly n, k => k = n
  | .more n, k => n < k

end Amount

/-- How the rights that an entry has compare to others. -/
inductive ModeMatch
  | exactly (mode : Nat)
  | all (mode : Nat)
  | any (mode : Nat)

inductive Criterion
  | constant (value : Bool)
  | name (pattern : Octets) (foldCase whole : Bool)
  | expression (e : Regex) (foldCase : Bool)
  | kind (letters : List Char)
  | size (amount : Amount) (unit : Nat)
  | empty
  | newer (time : Nat)
  | age (amount : Amount) (unit : Nat)
  | rights (mode : ModeMatch)
  | links (amount : Amount)
  | number (amount : Amount)
  | owner (isRoot : Bool)
  | allows (mask : Nat)
  | prune
  | print (ending : Octets)
  | printf (format : Octets)
  | list
  | delete
  | quit
  | run (command : List Octets) (fromFolder : Bool)
  | gather (number : Nat) (command : List Octets)
  | not (c : Criterion)
  | and (c d : Criterion)
  | or (c d : Criterion)
  | both (c d : Criterion)
  deriving Inhabited

/-- An entry that is looked at. -/
structure Visit where
  path : Octets
  /-- the starting point that led here -/
  start : Octets
  depth : Nat
  status : Status

/-- What the whole search keeps. -/
structure Findings where
  pruned : Bool := false
  stopped : Bool := false
  /-- paths that commands are run with at the end, the last in front -/
  gathered : List (Nat × Octets) := []
  failed : Bool := false

abbrev Finder := StateT Findings Tool

structure FindStyle where
  follows : Bool := false
  followsStarts : Bool := false
  deepFirst : Bool := false
  least : Nat := 0
  most? : Option Nat := none

namespace Finder

def lift {α : Type} (m : Tool α) : Finder α := StateT.lift m

/-- The last piece of a path, without separators at its end. -/
def nameOf (path : Octets) : Octets := lastPiece path

def matchesPattern (pattern text : Octets) (foldCase : Bool) : Bool :=
  let fold (s : Octets) : Octets := if foldCase then s.toLower else s
  let rec glyphs : List Char → List (Char × Bool)
    | '\\' :: c :: rest => (c, true) :: glyphs rest
    | c :: rest => (c, false) :: glyphs rest
    | [] => []
  (Shell.Pattern.ofGlyphs (glyphs (fold pattern).toList)).isMatch (fold text).toList

def kindOf (st : Status) : Char :=
  match st.kind with
  | .directory => 'd'
  | .file => 'f'
  | .link => 'l'
  | .device => 'c'
  | .pipe => 'p'

/-- A path below its starting point. -/
def below (v : Visit) : Octets :=
  let rest := (v.path.drop v.start.length).toString
  if rest.startsWith "/" then (rest.drop 1).toString else rest

/-- The folder in which an entry lies, as it was reached. -/
def folderOfVisit (path : Octets) : Octets :=
  let pieces := (dropSlashes path).splitOn "/"
  if pieces.length = 1 then (if path.startsWith "/" then "" else ".")
  else String.intercalate "/" pieces.dropLast

def decimalTime (time : Nat) : Octets :=
  let fraction := toString (time % 1000000)
  s!"{time / 1000000}." ++ replicate (6 - fraction.length) '0' ++ fraction ++ "0000"

/-- The text of a mark in a format. -/
def markText (v : Visit) (aim : Octets) (c : Char) : Octets :=
  let st := v.status
  match c with
  | 'p' => v.path
  | 'f' => nameOf v.path
  | 'h' => folderOfVisit v.path
  | 'P' => below v
  | 'H' => v.start
  | 'd' => toString v.depth
  | 's' => toString st.size
  | 'm' => String.ofList (Nat.toDigits 8 (st.mode &&& 0o7777))
  | 'M' => (kindLetter st.kind).toString ++ rightsText st.mode
  | 'y' | 'Y' => (kindOf st).toString
  | 'l' => aim
  | 'n' => toString st.links
  | 'i' => toString st.number
  | 'u' | 'g' => "root"
  | 'U' | 'G' => "0"
  | 'k' => toString ((blocksOf st + 1) / 2)
  | 'b' => toString (blocksOf st)
  | 't' | 'a' | 'c' => dateText "%a %b %e %H:%M:%S.%N0 %Y" st.modified
  | '%' => "%"
  | c => String.ofList ['%', c]

def fillFormat (v : Visit) (aim : Octets) : (fuel : Nat) → List Char → Octets
  | 0, _ => ""
  | _, [] => ""
  | fuel + 1, '%' :: rest =>
    let flags := rest.takeWhile fun c => c.isDigit || c = '-'
    let width := ((String.ofList (flags.filter Char.isDigit)).toNat?).getD 0
    let pad (text : Octets) : Octets :=
      if flags.contains '-' then padRight width text else padLeft width text
    match rest.drop flags.length with
    | [] => "%"
    | t :: k :: more =>
      if t = 'T' || t = 'A' || t = 'C' then
        let text := if k = '@' then decimalTime v.status.modified
          else dateText (String.ofList ['%', k]) v.status.modified
        pad text ++ fillFormat v aim fuel more
      else pad (markText v aim t) ++ fillFormat v aim fuel (k :: more)
    | [t] => pad (markText v aim t)
  | fuel + 1, '\\' :: rest =>
    match rest with
    | '0' :: more => "\x00" ++ fillFormat v aim fuel more
    | rest => match ({ zeroFirst := false, hexadecimal := false, stops := true, escape := false } : Escapes).read rest with
      | some (text, more) => text ++ fillFormat v aim fuel more
      | none => ""
  | fuel + 1, c :: rest => c.toString ++ fillFormat v aim fuel rest

/-- Runs a command and tells whether it succeeded. -/
def runCommand (command : List Octets) (folder? : Option Octets) : Tool Bool := do
  let bindings := (← get).bindings
  let child ← startChild do
    match folder? with
    | some folder =>
      let _ ← Tool.ask (.enter folder)
    | none => pure ()
    become command bindings quoteName
  match ← awaitChild child with
  | .exited 0 => return true
  | _ => return false

def braces : Octets := "\x7b\x7d"

/-- Whether a criterion holds of an entry; actions are done. -/
def holds (v : Visit) : Criterion → Finder Bool
  | .constant value => pure value
  | .name pattern foldCase whole =>
    pure (matchesPattern pattern (if whole then v.path else nameOf v.path) foldCase)
  | .expression e foldCase =>
    let subject : Regex.Subject := { chars := v.path.toList.toArray, foldCase }
    pure (((e.matchAt subject 0).map fun m => decide (m.last = v.path.length)).getD false)
  | .kind letters => pure (letters.contains (kindOf v.status))
  | .size amount unit => pure (amount.holds ((v.status.size + unit - 1) / unit))
  | .empty =>
    match v.status.kind with
    | .file => pure (v.status.size == 0)
    | .directory => do
      match ← lift (Tool.ask (.list v.path)) with
      | .ok names => return names.isEmpty
      | .error _ => return false
    | _ => pure false
  | .newer time => pure (time < v.status.modified)
  | .age amount unit => do
    let now : Nat ← lift (Tool.ask .clock)
    return amount.holds ((now - v.status.modified) / unit)
  | .rights (.exactly mode) => pure (v.status.mode &&& 0o7777 == mode)
  | .rights (.all mode) => pure (v.status.mode &&& mode == mode)
  | .rights (.any mode) => pure (mode == 0 || v.status.mode &&& mode != 0)
  | .links amount => pure (amount.holds v.status.links)
  | .number amount => pure (amount.holds v.status.number)
  | .owner isRoot => pure isRoot
  | .allows mask => pure (mask != 0o111 || v.status.kind = .directory || v.status.mode &&& 0o111 ≠ 0)
  | .prune => do
    modify fun s => { s with pruned := true }
    return true
  | .print ending => do
    lift (Tool.print (v.path ++ ending))
    return true
  | .printf format => do
    let aim ← match v.status.kind with
      | .link => do
        match ← lift (Tool.ask (.readLink v.path)) with
        | .ok aim => pure aim
        | .error _ => pure ""
      | _ => pure ""
    lift (Tool.print (fillFormat v aim (format.length + 1) format.toList))
    return true
  | .list => do
    let now : Nat ← lift (Tool.ask .clock)
    let e : Listed := { name := v.path, path := v.path, status := v.status }
    let columns := columnsOf { long := true, numbers := true, blocks := true } now e
    lift (Tool.printLine (String.intercalate " " (columns.map (·.2)) ++ " " ++ v.path))
    return true
  | .delete => do
    if v.path = "." then return true
    let edit := if v.status.kind = .directory then Host.Edit.removeDirectory v.path
      else Host.Edit.removeFile v.path
    match ← lift (Tool.ask (.edit edit)) with
    | .ok _ => return true
    | .error fault =>
      lift (Tool.complain s!"cannot delete {quoteName v.path}: {fault.text}")
      return false
  | .quit => do
    modify fun s => { s with stopped := true }
    return true
  | .run command fromFolder => do
    let shown := if fromFolder then "./" ++ nameOf v.path else v.path
    let filled := command.map fun part => replaceAll part braces shown
    lift (runCommand filled (if fromFolder then some (folderOfVisit v.path) else none))
  | .gather number _ => do
    modify fun s => { s with gathered := (number, v.path) :: s.gathered }
    return true
  | .not c => do return !(← holds v c)
  | .and c d => do if ← holds v c then holds v d else return false
  | .or c d => do if ← holds v c then return true else holds v d
  | .both c d => do
    let _ ← holds v c
    holds v d

/-- Looks at an entry and what lies below it. -/
def visit (style : FindStyle) (c : Criterion) : (fuel : Nat) → (start path : Octets) →
    (depth : Nat) → Finder Unit
  | 0, _, _, _ => pure ()
  | fuel + 1, start, path, depth => do
    if (← get).stopped then return
    let follows := style.follows || (style.followsStarts && depth = 0)
    let seen ← lift (Tool.ask (.status path follows))
    let seen ← match seen, follows with
      | .error _, true => lift (Tool.ask (.status path false))
      | seen, _ => pure seen
    match seen with
    | .error fault => lift (Tool.complain s!"{quoteName path}: {fault.text}")
    | .ok status =>
      let v : Visit := { path, start, depth, status }
      let look : Finder Unit := do
        if style.least ≤ depth then
          let _ ← holds v c
      modify fun s => { s with pruned := false }
      if !style.deepFirst then look
      let s ← get
      let isBelow := (style.most?.map fun most => decide (depth < most)).getD true
      if status.kind = .directory && isBelow && !s.stopped && (style.deepFirst || !s.pruned) then
        match ← lift (Tool.ask (.list path)) with
        | .error fault => lift (Tool.complain s!"{quoteName path}: {fault.text}")
        | .ok names =>
          for name in names do
            visit style c fuel start (within path name) (depth + 1)
      if style.deepFirst && !(← get).stopped then look

/-- The commands that are run at the end. -/
def gatherers : Criterion → List (Nat × List Octets)
  | .gather number command => [(number, command)]
  | .not c => gatherers c
  | .and c d | .or c d | .both c d => gatherers c ++ gatherers d
  | _ => []

/-- Something is done in an expression. -/
def acts : Criterion → Bool
  | .print _ | .printf _ | .list | .delete | .quit | .run _ _ | .gather _ _ => true
  | .not c => acts c
  | .and c d | .or c d | .both c d => acts c || acts d
  | _ => false

end Finder

/-! ## Reading expressions -/

/-- What is known while an expression is read. -/
structure FindReading where
  rest : List Octets
  style : FindStyle := {}
  extended : Bool := false
  gathers : Nat := 0

abbrev FindParse := StateT FindReading Tool

namespace FindParse

def fail {α : Type} (text : Octets) : FindParse α := StateT.lift (Tool.fail text)

/-- The argument of a predicate. -/
def argument (predicate : Octets) : FindParse Octets := do
  let s ← get
  match s.rest with
  | word :: rest =>
    set { s with rest }
    return word
  | [] => fail s!"missing argument to \x60{predicate}'"

def amount (predicate : Octets) : FindParse Amount := do
  let text ← argument predicate
  match Amount.parse? text with
  | some a => return a
  | none => fail s!"invalid argument \x60{text}' to \x60{predicate}'"

def timeOf (path : Octets) : FindParse Nat := do
  match ← StateT.lift (Tool.ask (.status path true)) with
  | .ok st => return st.modified
  | .error fault => fail s!"{quoteName path}: {fault.text}"

/-- The words of a command up to what ends it, and whether it gathers paths. -/
def command (predicate : Octets) : FindParse (List Octets × Bool) := do
  let s ← get
  let rec split (taken : List Octets) : List Octets → Option (List Octets × Bool × List Octets)
    | [] => none
    | word :: rest =>
      if word = ";" then some (taken.reverse, false, rest)
      else if word = "+" && taken.head? = some Finder.braces then
        some ((taken.drop 1).reverse, true, rest)
      else split (word :: taken) rest
  match split [] s.rest with
  | some (words, gathers, rest) =>
    set { s with rest }
    if words.isEmpty then fail s!"invalid argument \x60;' to \x60{predicate}'"
    return (words, gathers)
  | none => fail s!"missing argument to \x60{predicate}'"

/-- Marks that repeat are operators without a backslash in front of them. -/
def bareOperators : List Char → List Char
  | '\\' :: c :: rest => '\\' :: c :: bareOperators rest
  | c :: rest => if c = '+' || c = '?' then '\\' :: c :: bareOperators rest else c :: bareOperators rest
  | [] => []

def setStyle (f : FindStyle → FindStyle) : FindParse Criterion := do
  modify fun s => { s with style := f s.style }
  return .constant true

/-- One predicate with its arguments. -/
def predicate (word : Octets) : FindParse Criterion := do
  match word with
  | "-name" => return .name (← argument word) false false
  | "-iname" => return .name (← argument word) true false
  | "-path" | "-wholename" => return .name (← argument word) false true
  | "-ipath" | "-iwholename" => return .name (← argument word) true true
  | "-regextype" =>
    let kind ← argument word
    modify fun s => { s with extended := kind.endsWith "extended" || kind.endsWith "egrep" || kind.endsWith "awk" }
    return .constant true
  | "-regex" | "-iregex" =>
    let text ← argument word
    let extended := (← get).extended
    let text := if extended then text else String.ofList (bareOperators text.toList)
    match Regex.parse (if extended then .extended else .basic) text with
    | .ok (e, _) => return .expression e (word = "-iregex")
    | .error reason => fail s!"failed to compile regular expression '{text}': {reason}"
  | "-type" | "-xtype" =>
    let letters := (← argument word).toList.filter (· ≠ ',')
    match letters.find? fun c => !"bcdpflsD".toList.contains c with
    | some c => fail s!"Unknown argument to -type: {c}"
    | none => return .kind letters
  | "-size" =>
    let text ← argument word
    let (unit, digits) := match text.toList.getLast? with
      | some 'c' => (1, (text.dropEnd 1).toString)
      | some 'w' => (2, (text.dropEnd 1).toString)
      | some 'b' => (512, (text.dropEnd 1).toString)
      | some 'k' => (1024, (text.dropEnd 1).toString)
      | some 'M' => (1024 ^ 2, (text.dropEnd 1).toString)
      | some 'G' => (1024 ^ 3, (text.dropEnd 1).toString)
      | _ => (512, text)
    match Amount.parse? digits with
    | some a => return .size a unit
    | none => fail s!"Invalid argument \x60{text}' to -size"
  | "-empty" => return .empty
  | "-newer" | "-anewer" | "-cnewer" | "-newermm" => return .newer (← timeOf (← argument word))
  | "-newermt" =>
    let text ← argument word
    let now : Nat ← StateT.lift (Tool.ask .clock)
    match written? now text with
    | some time => return .newer time
    | none => fail s!"I cannot figure out how to interpret {quoteText text} as a date or time"
  | "-mtime" | "-atime" | "-ctime" => return .age (← amount word) 86400000000
  | "-mmin" | "-amin" | "-cmin" => return .age (← amount word) 60000000
  | "-perm" =>
    let text ← argument word
    let mode (text : Octets) : FindParse Nat :=
      match Mode.parse? text with
      | some m => pure (m.apply false 0 0)
      | none => fail s!"invalid mode {quoteText text}"
    match text.toList with
    | '-' :: rest => return .rights (.all (← mode (String.ofList rest)))
    | '/' :: rest => return .rights (.any (← mode (String.ofList rest)))
    | _ => return .rights (.exactly (← mode text))
  | "-links" => return .links (← amount word)
  | "-inum" => return .number (← amount word)
  | "-samefile" =>
    let path ← argument word
    match ← StateT.lift (Tool.ask (.status path true)) with
    | .ok st => return .number (.exactly st.number)
    | .error fault => fail s!"{quoteName path}: {fault.text}"
  | "-user" | "-group" | "-uid" | "-gid" =>
    let text ← argument word
    return .owner (text = "root" || text = "0")
  | "-nouser" | "-nogroup" => return .owner false
  | "-readable" | "-writable" => return .allows 0
  | "-executable" => return .allows 0o111
  | "-true" => return .constant true
  | "-false" => return .constant false
  | "-prune" => return .prune
  | "-print" => return .print "\n"
  | "-print0" => return .print "\x00"
  | "-printf" => return .printf (← argument word)
  | "-ls" => return .list
  | "-delete" =>
    let _ ← setStyle fun s => { s with deepFirst := true }
    return .delete
  | "-quit" => return .quit
  | "-exec" | "-execdir" | "-ok" | "-okdir" =>
    let (words, gathers) ← command word
    if word = "-ok" || word = "-okdir" then return .constant false
    if gathers && word = "-exec" then
      let number := (← get).gathers
      modify fun s => { s with gathers := number + 1 }
      return .gather number words
    return .run (if gathers then words ++ [Finder.braces] else words) (word = "-execdir")
  | "-depth" | "-d" => setStyle fun s => { s with deepFirst := true }
  | "-maxdepth" =>
    let text ← argument word
    match text.toNat? with
    | some n => setStyle fun s => { s with most? := some n }
    | none => fail s!"Expected a positive decimal integer argument to -maxdepth, but got {quoteText text}"
  | "-mindepth" =>
    let text ← argument word
    match text.toNat? with
    | some n => setStyle fun s => { s with least := n }
    | none => fail s!"Expected a positive decimal integer argument to -mindepth, but got {quoteText text}"
  | "-follow" => setStyle fun s => { s with follows := true }
  | "-xdev" | "-mount" | "-noleaf" | "-daystart" | "-ignore_readdir_race" | "-warn" | "-nowarn" =>
    return .constant true
  | word =>
    if word.startsWith "-" && 1 < word.length then fail s!"unknown predicate \x60{word}'"
    else
      StateT.lift (Tool.warn s!"paths must precede expression: \x60{word}'")
      throw 1

mutual

/-- Expressions, the loosest operators first. -/
def sequence : (fuel : Nat) → FindParse Criterion
  | 0 => fail "invalid expression"
  | fuel + 1 => do
    let c ← alternatives fuel
    let s ← get
    match s.rest with
    | "," :: rest =>
      set { s with rest }
      return .both c (← sequence fuel)
    | _ => return c

def alternatives : (fuel : Nat) → FindParse Criterion
  | 0 => fail "invalid expression"
  | fuel + 1 => do
    let c ← conjunction fuel
    let s ← get
    match s.rest with
    | "-o" :: rest | "-or" :: rest =>
      set { s with rest }
      return .or c (← alternatives fuel)
    | _ => return c

def conjunction : (fuel : Nat) → FindParse Criterion
  | 0 => fail "invalid expression"
  | fuel + 1 => do
    let c ← negation fuel
    let s ← get
    match s.rest with
    | [] | ")" :: _ | "-o" :: _ | "-or" :: _ | "," :: _ => return c
    | "-a" :: rest | "-and" :: rest =>
      set { s with rest }
      return .and c (← conjunction fuel)
    | _ => return .and c (← conjunction fuel)

def negation : (fuel : Nat) → FindParse Criterion
  | 0 => fail "invalid expression"
  | fuel + 1 => do
    let s ← get
    match s.rest with
    | "!" :: rest | "-not" :: rest =>
      set { s with rest }
      return .not (← negation fuel)
    | "(" :: rest =>
      set { s with rest }
      let c ← sequence fuel
      let s ← get
      match s.rest with
      | ")" :: rest =>
        set { s with rest }
        return c
      | _ => fail "invalid expression; I was expecting to find a ')' somewhere but did not see one."
    | word :: rest =>
      match word with
      | "-o" | "-or" | "-a" | "-and" | "," =>
        fail s!"invalid expression; you have used a binary operator '{word}' with nothing before it."
      | ")" => fail "invalid expression; you have too many ')'"
      | word =>
        set { s with rest }
        predicate word
    | [] => fail "invalid expression; expected to find something behind an operator."

end

end FindParse

def find (words : List Octets) : Tool Unit := do
  if words.head? == some "--help" || words.head? == some "--version" then throw 0
  let isStyle (word : Octets) : Bool := ["-H", "-L", "-P"].contains word
  let styleWords := words.takeWhile isStyle
  let words := words.drop styleWords.length
  let words := if words.head? == some "--" then words.drop 1 else words
  let begins (word : Octets) : Bool :=
    (word.startsWith "-" && 1 < word.length) || word = "(" || word = "!" || word = ")" || word = ","
  let starts := words.takeWhile fun word => !begins word
  let rest := words.drop starts.length
  let style : FindStyle := match styleWords.getLast? with
    | some "-L" => { follows := true }
    | some "-H" => { followsStarts := true }
    | _ => {}
  let (c, reading) ←
    if rest.isEmpty then pure (Criterion.constant true, { rest := [], style : FindReading })
    else (FindParse.sequence (4 * rest.length + 8)).run { rest, style }
  match reading.rest with
  | ")" :: _ => Tool.fail "invalid expression; you have too many ')'"
  | _ => pure ()
  let c := if Finder.acts c then c else .and c (.print "\n")
  let search : Finder Unit := do
    for start in if starts.isEmpty then ["."] else starts do
      Finder.visit reading.style c Tool.endless start start 0
  let (_, s) ← search.run {}
  for (number, command) in Finder.gatherers c do
    let paths := (s.gathered.filter (·.1 == number)).reverse.map (·.2)
    if !paths.isEmpty then
      if !(← Finder.runCommand (command ++ paths) none) then Tool.setStatus 1

end AssetWatch.Utility
