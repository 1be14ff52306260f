import AssetWatch.Utility.Edit.Script
import AssetWatch.Utility.Input

/-!
# Editing

The commands of a script are carried out for each line. What a line becomes is written when its
commands are through, and behind it what was put off until then.
-/

namespace AssetWatch.Utility.Edit

/-- A line of the input. -/
structure InputLine where
  text : Octets
  /-- a line end stands behind it -/
  ended : Bool := true
  file : Octets
  isLast : Bool := false

/-- What is written behind a line. -/
inductive Deferred
  | text (text : Octets)
  | file (path : Octets)

/-- How far the range of a command has come. -/
inductive Progress
  | outside
  | until (line : Nat)
  | untilMatch
  deriving DecidableEq, Inhabited

structure State where
  space : Octets := ""
  hold : Octets := ""
  current : InputLine := { text := "", file := "-" }
  number : Nat := 0
  input : List InputLine
  deferred : List Deferred := []
  replaced : Bool := false
  lastPattern? : Option Regex := none
  progress : Array Progress
  /-- the last line that was written lacks its end -/
  isOpen : Bool := false
  /-- where it is written, if not to the output -/
  collected? : Option Octets := none
  files : List (Octets × Nat) := []

structure Setting where
  silent : Bool := false
  ending : Char := '\n'
  /-- lines are counted file by file -/
  separate : Bool := false

abbrev Editing := StateT State Tool

/-- What follows a command. -/
inductive Next
  | go (place : Nat)
  /-- the line is through -/
  | done
  /-- nothing is written of the line -/
  | dropped
  /-- the commands begin again with what is left -/
  | again
  | quit (status : Nat) (writes : Bool)

/-! ## Writing -/

def emit (text : Octets) : Editing Unit := do
  let s ← get
  let text := if s.isOpen then "\n" ++ text else text
  match s.collected? with
  | some collected => set { s with isOpen := false, collected? := some (collected ++ text) }
  | none =>
    set { s with isOpen := false }
    StateT.lift (Tool.print text)

/-- Writes a text as a line, with an end if the line that was read had one. -/
def emitLine (e : Setting) (text : Octets) : Editing Unit := do
  let ended := (← get).current.ended
  emit (if ended then text.push e.ending else text)
  modify fun s => { s with isOpen := !ended }

def writeTo (path text : Octets) : Editing Unit := do
  if path = "/dev/stdout" then emit text
  else if path = "/dev/stderr" then StateT.lift (Tool.tell text)
  else
    match (← get).files.lookup path with
    | some descriptor =>
      let _ ← StateT.lift (Tool.ask (.write descriptor text.bytes))
    | none => pure ()

def writeDeferred : Editing Unit := do
  for d in (← get).deferred do
    match d with
    | .text text => emit text
    | .file path =>
      match ← StateT.lift (Tool.readFile path) with
      | .ok text => if text ≠ "" then emit text
      | .error _ => pure ()
  modify fun s => { s with deferred := [] }

/-! ## Reading -/

/-- Takes the next line; none is left if it fails. -/
def readNext (e : Setting) : Editing (Option InputLine) := do
  let s ← get
  match s.input with
  | [] => return none
  | line :: rest =>
    let starts := e.separate && (s.number = 0 || s.current.isLast)
    set { s with
      input := rest
      current := line
      number := if starts then 1 else s.number + 1 }
    return some line

def isLastLine (e : Setting) : Editing Bool := do
  let s ← get
  return if e.separate then s.current.isLast else s.input.isEmpty

/-! ## Addresses -/

def usePattern (e? : Option Regex) : Editing Regex := do
  match e? with
  | some e =>
    modify fun s => { s with lastPattern? := some e }
    return e
  | none =>
    match (← get).lastPattern? with
    | some e => return e
    | none => StateT.lift (Tool.fail "no previous regular expression")

def matchesSpace (e? : Option Regex) (foldCase : Bool) : Editing Bool := do
  let e ← usePattern e?
  let chars := (← get).space.toList.toArray
  return (e.find? { chars, foldCase }).isSome

def addressHolds (e : Setting) (a : Address) : Editing Bool := do
  let number := (← get).number
  match a with
  | .line n => return number = n
  | .last => isLastLine e
  | .step first step =>
    return if step = 0 then number = first else first ≤ number && (number - first) % step = 0
  | .pattern p? foldCase => matchesSpace p? foldCase

/-- Begins a range, and tells how far it goes. -/
def beginRange (number : Nat) : RangeEnd → Progress
  | .address (.line m) => if m ≤ number then .outside else .until m
  | .address _ => .untilMatch
  | .more count => if count = 0 then .outside else .until (number + count)
  | .multiple n =>
    if n = 0 || number % n = 0 then .outside else .until (number + (n - number % n))

/-- Whether a command is to be carried out. -/
def applies (e : Setting) (place : Nat) (c : Command) : Editing Bool := do
  let number := (← get).number
  let mark (p : Progress) : Editing Unit := modify fun s =>
    { s with progress := s.progress.setIfInBounds place p }
  let held ← match c.first?, c.second? with
    | none, _ => pure true
    | some a, none => addressHolds e a
    | some a, some b =>
      match ((← get).progress[place]?).getD .outside with
      | .outside => do
        if ← addressHolds e a then
          mark (beginRange number b)
          pure true
        else pure false
      | .until line => do
        if line ≤ number then mark .outside
        pure (decide (number ≤ line))
      | .untilMatch => do
        match b with
        | .address b => if ← addressHolds e b then mark .outside
        | _ => pure ()
        pure true
  return held != c.negated

/-! ## Substitution -/

def changeCase (c : Casing) (s : Octets) : Octets :=
  match c with
  | .upper => s.toUpper
  | .lower => s.toLower
  | _ => s

/-- Text with its first letter changed, and with the rest as a casing says. -/
def cased (lasting next : Casing) (s : Octets) : Octets :=
  let body := changeCase lasting s
  match next, body.toList with
  | .upperNext, c :: rest => String.ofList (c.toUpper :: rest)
  | .lowerNext, c :: rest => String.ofList (c.toLower :: rest)
  | _, _ => body

/-- The text that replaces a match. -/
def replacement (groups : Nat → Octets) (parts : List Part) : Octets :=
  let step (s : Octets × Casing × Casing) (p : Part) : Octets × Casing × Casing :=
    let (made, lasting, next) := s
    let add (text : Octets) : Octets × Casing × Casing :=
      if text = "" then s else (made ++ cased lasting next text, lasting, .stop)
    match p with
    | .text text => add text
    | .group n => add (groups n)
    | .casing .stop => (made, .stop, .stop)
    | .casing c =>
      if c = .upper || c = .lower then (made, c, next) else (made, lasting, c)
  (parts.foldl step ("", .stop, .stop)).1

/-- Replaces matches: what has been made, and whether one was replaced. -/
def replaceFrom (pattern : Regex) (subject : Regex.Subject) (t : Substitution) :
    (fuel : Nat) → (position : Nat) → (previous? : Option Nat) → (count : Nat) →
    (made : List Octets) → (replaced : Bool) → List Octets × Bool
  | 0, _, _, _, made, replaced => (made, replaced)
  | fuel + 1, position, previous?, count, made, replaced =>
    let slice (first last : Nat) : Octets :=
      String.ofList (subject.chars.extract first last).toList
    let rest : List Octets := slice position subject.chars.size :: made
    match pattern.find? subject position with
    | none => (rest, replaced)
    | some m =>
      let isVacuous := m.first = m.last && previous? = some m.first
      let front := slice position m.first
      let step := if m.first = m.last then slice m.last (m.last + 1) else ""
      let next := if m.first = m.last then m.last + 1 else m.last
      if isVacuous then
        if subject.chars.size < next then (rest, replaced)
        else replaceFrom pattern subject t fuel next none count (step :: front :: made) replaced
      else if count + 1 < t.number then
        let kept := slice m.first m.last
        if subject.chars.size < next then (rest, replaced)
        else replaceFrom pattern subject t fuel next (some m.last) (count + 1)
          (step :: kept :: front :: made) replaced
      else
        let groups (n : Nat) : Octets :=
          if n = 0 then slice m.first m.last
          else match m.groups.lookup n with
            | some (first, last) => slice first last
            | none => ""
        let new := replacement groups t.parts
        if !t.all then
          (slice m.last subject.chars.size :: new :: front :: made, true)
        else if subject.chars.size < next then (new :: front :: made, true)
        else replaceFrom pattern subject t fuel next (some m.last) (count + 1)
          (step :: new :: front :: made) true

def substitute (e : Setting) (t : Substitution) : Editing Unit := do
  let pattern ← usePattern t.pattern?
  let s ← get
  let subject : Regex.Subject :=
    { chars := s.space.toList.toArray, foldCase := t.foldCase, hasLines := t.hasLines }
  let (made, replaced) :=
    replaceFrom pattern subject t (subject.chars.size + 2) 0 none 0 [] false
  if replaced then
    let space := String.join made.reverse
    set { s with space, replaced := true }
    if t.prints then emitLine e space
    match t.file? with
    | some path => writeTo path (space ++ "\n")
    | none => pure ()

/-! ## Commands -/

/-- A text with everything visible, in lines of a width. -/
def visible (text : Octets) : Octets :=
  let one (c : Char) : String :=
    match c with
    | '\\' => "\\\\"
    | '\n' => "\\n"
    | c => if ' ' ≤ c && c.toNat < 127 then c.toString else Quoted.escape c
  let step (s : Octets × Nat) (piece : String) : Octets × Nat :=
    if 69 < s.2 + piece.length then (s.1 ++ "\\\n" ++ piece, piece.length)
    else (s.1 ++ piece, s.2 + piece.length)
  ((text.toList.map one).foldl step ("", 0)).1 ++ "$\n"

def placeOf (commands : Array Command) (name : Octets) : Nat :=
  if name = "" then commands.size
  else (commands.findIdx? fun c => match c.action with
    | .label l => l == name
    | _ => false).getD commands.size

/-- Carries out one command. -/
def carryOut (e : Setting) (commands : Array Command) (place : Nat) (c : Command) :
    Editing Next := do
  let s ← get
  let go : Next := .go (place + 1)
  let firstLine : Octets := (s.space.splitOn "\n").headD ""
  match c.action with
  | .blockStart _ | .blockEnd | .label _ | .nothing => return go
  | .number =>
    emit s!"{s.number}\n"
    return go
  | .append text =>
    set { s with deferred := s.deferred ++ [Deferred.text text] }
    return go
  | .insert text =>
    emit text
    return go
  | .change text =>
    let inRange := c.second?.isSome && !c.negated
    if !inRange || ((s.progress[place]?).getD .outside) = .outside then emit text
    return .dropped
  | .delete => return .dropped
  | .deleteLine =>
    match s.space.splitOn "\n" with
    | _ :: next :: rest =>
      set { s with space := String.intercalate "\n" (next :: rest) }
      return .again
    | _ => return .dropped
  | .jump name => return .go (placeOf commands name)
  | .jumpIfReplaced name =>
    set { s with replaced := false }
    return if s.replaced then .go (placeOf commands name) else go
  | .jumpUnlessReplaced name =>
    set { s with replaced := false }
    return if s.replaced then go else .go (placeOf commands name)
  | .getHold =>
    set { s with space := s.hold }
    return go
  | .addHold =>
    set { s with space := s.space ++ "\n" ++ s.hold }
    return go
  | .hold =>
    set { s with hold := s.space }
    return go
  | .holdMore =>
    set { s with hold := s.hold ++ "\n" ++ s.space }
    return go
  | .exchange =>
    set { s with hold := s.space, space := s.hold }
    return go
  | .list =>
    emit (visible s.space)
    return go
  | .next =>
    if s.input.isEmpty then return .quit 0 true
    if !e.silent then emitLine e s.space
    writeDeferred
    match ← readNext e with
    | some line => modify fun s => { s with space := line.text }
    | none => pure ()
    return go
  | .nextMore =>
    if s.input.isEmpty then return .quit 0 true
    writeDeferred
    match ← readNext e with
    | some line => modify fun s => { s with space := s.space ++ "\n" ++ line.text }
    | none => pure ()
    return go
  | .print =>
    emitLine e s.space
    return go
  | .printLine =>
    emit (firstLine.push e.ending)
    return go
  | .quit status => return .quit status true
  | .quitSilently status => return .quit status false
  | .readFile path =>
    set { s with deferred := s.deferred ++ [Deferred.file path] }
    return go
  | .writeFile path =>
    writeTo path (s.space ++ "\n")
    return go
  | .writeLine path =>
    writeTo path (firstLine ++ "\n")
    return go
  | .substitute t =>
    substitute e t
    return go
  | .translate pairs =>
    set { s with space := s.space.map fun c => (pairs.lookup c).getD c }
    return go
  | .fileName =>
    emit (s.current.file ++ "\n")
    return go
  | .empty =>
    set { s with space := "" }
    return go

/-- Carries out the commands from a place on. -/
def runFrom (e : Setting) (commands : Array Command) : (fuel : Nat) → Nat → Editing Next
  | 0, _ => pure .done
  | fuel + 1, place => do
    match commands[place]? with
    | none => return .done
    | some c =>
      if ← applies e place c then
        match ← carryOut e commands place c with
        | .go next => runFrom e commands fuel next
        | other => return other
      else match c.action with
        | .blockStart finish => runFrom e commands fuel (finish + 1)
        | _ => runFrom e commands fuel (place + 1)

/-- Edits line by line, and gives the status; none if all lines are through. -/
def runLines (e : Setting) (commands : Array Command) : (fuel : Nat) → (again : Bool) →
    Editing (Option Nat)
  | 0, _ => pure none
  | fuel + 1, again => do
    if !again then
      match ← readNext e with
      | none => return none
      | some line => modify fun s => { s with space := line.text }
    modify fun s => { s with replaced := if again then s.replaced else false }
    match ← runFrom e commands Tool.endless 0 with
    | .dropped =>
      writeDeferred
      runLines e commands fuel false
    | .again =>
      writeDeferred
      runLines e commands fuel true
    | .quit status writes =>
      if writes then
        if !e.silent then emitLine e (← get).space
        writeDeferred
      return some status
    | _ =>
      if !e.silent then emitLine e (← get).space
      writeDeferred
      runLines e commands fuel false

/-- The lines of a file. -/
def inputLines (ending : Char) (path text : Octets) : List InputLine :=
  let all := (pieces ending text).map fun piece =>
    if piece.endsWith ending.toString then
      { text := (piece.dropEnd 1).toString, file := path : InputLine }
    else { text := piece, ended := false, file := path }
  match all.reverse with
  | [] => []
  | last :: others => ({ last with isLast := true } :: others).reverse

/-- The files that a script writes to. -/
def outputs (commands : Array Command) : List Octets :=
  (commands.toList.filterMap fun c => match c.action with
    | .writeFile path | .writeLine path => some path
    | .substitute t => t.file?
    | _ => none).eraseDups

/-- The labels to which a script jumps but which it lacks. -/
def missingLabels (commands : Array Command) : List Octets :=
  let labels := commands.toList.filterMap fun c => match c.action with
    | .label name => some name
    | _ => none
  commands.toList.filterMap fun c => match c.action with
    | .jump name | .jumpIfReplaced name | .jumpUnlessReplaced name =>
      if name = "" || labels.contains name then none else some name
    | _ => none

/-- The script that options and operands give, and the operands that are left. -/
def scriptOf (found : List Given) (operands : List Octets) : Tool (Octets × List Octets) := do
  let mut chunks : Array Octets := #[]
  for g in found do
    if g.name = "e" then chunks := chunks.push g.value
    else if g.name = "f" then
      match ← Tool.readFile g.value with
      | .ok text => chunks := chunks.push (if text.endsWith "\n" then (text.dropEnd 1).toString else text)
      | .error fault => Tool.fail s!"couldn't open file {g.value}: {fault.text}"
  if !chunks.isEmpty then return (String.intercalate "\n" chunks.toList, operands)
  match operands with
  | script :: rest => return (script, rest)
  | [] =>
    let name := (← get).name
    Tool.tell s!"Usage: {name} [OPTION]... \x7bscript-only-if-no-other-script\x7d [input-file]...\n\n"
    throw 1

/-- Replaces a file by a new one, and keeps a copy under another name if a suffix is given. -/
def replaceFile (path suffix content : Octets) (mode : Nat) : Tool Unit := do
  let folder := String.intercalate "/" (path.splitOn "/").dropLast
  let front := if path.toList.contains '/' then folder ++ "/" else ""
  let temporary := front ++ "sedXXXXXX"
  match ← Tool.ask (.openFile temporary { writes := true, creates := true, excludes := true, mode }) with
  | .error fault => Tool.fail s!"couldn't open temporary file {temporary}: {fault.text}" 4
  | .ok descriptor =>
    if content ≠ "" then
      let _ ← Tool.ask (.write descriptor content.bytes)
    let _ ← Tool.ask (.close descriptor)
    if suffix ≠ "" then
      let name := (path.splitOn "/").getLastD path
      let backup := if suffix.toList.contains '*' then
          (suffix.splitOn "*").intersperse name |> String.join
        else name ++ suffix
      let _ ← Tool.ask (.edit (.rename path (front ++ backup)))
    match ← Tool.ask (.edit (.rename temporary path)) with
    | .ok _ => pure ()
    | .error fault => Tool.fail s!"cannot rename {temporary}: {fault.text}" 4

end Edit

open Edit in
def sed (words : List Octets) : Tool Unit := do
  let (found, operands) ← Options.read {
    letters := "bsnrzuEe:f:l:i::V:"
    long := [("expression", 'e'), ("file", 'f'), ("in-place", 'i'), ("line-length", 'l'),
      ("quiet", 'n'), ("silent", 'n'), ("regexp-extended", 'E'), ("separate", 's'),
      ("unbuffered", 'u'), ("null-data", 'z')]
    words := [("posix", .none), ("debug", .none), ("sandbox", .none),
      ("follow-symlinks", .none)] } words
  let has := Given.has found
  let (script, paths) ← scriptOf found operands
  let commands ← match parse (has "E" || has "r") script with
    | .ok commands => pure commands
    | .error (text, place) => Tool.fail s!"-e expression #1, char {place}: {text}"
  match missingLabels commands with
  | name :: _ => Tool.fail s!"can't find label for jump to `{name}'" 4
  | [] => pure ()
  let inPlace? := Given.last? found ["i"]
  let e : Setting := {
    silent := has "n" || script.startsWith "#n\n" || script = "#n"
    ending := if has "z" then '\x00' else '\n'
    separate := has "s" || inPlace?.isSome }
  let mut files : Array (Octets × Nat) := #[]
  for path in outputs commands do
    if path ≠ "/dev/stdout" && path ≠ "/dev/stderr" then
      match ← Tool.ask (.openFile path Host.Access.writing) with
      | .ok descriptor => files := files.push (path, descriptor)
      | .error fault => Tool.fail s!"couldn't open file {path}: {fault.text}" 4
  let started : Array Progress := commands.map fun c =>
    if c.fromZero then .untilMatch else .outside
  let mut inputs : Array (Octets × Octets) := #[]
  for path in if paths.isEmpty then ["-"] else paths do
    match ← Tool.readFile path with
    | .ok text => inputs := inputs.push (path, text)
    | .error .isDirectory =>
      if inPlace?.isSome then Tool.complain s!"couldn't edit {path}: not a regular file" 4
      else Tool.complain s!"couldn't read {path}: Is a directory" 2
    | .error fault => Tool.complain s!"can't read {path}: {fault.text}" 2
  match inPlace? with
  | none =>
    let input := inputs.toList.flatMap fun (path, text) => inputLines e.ending path text
    let (status?, _) ← (runLines e commands Tool.endless false).run
      { input, progress := started, files := files.toList }
    match status? with
    | some status => if status ≠ 0 then Tool.setStatus status
    | none => pure ()
  | some g =>
    let mut progress := started
    let mut hold := ""
    let mut stopped := false
    for (path, text) in inputs do
      if !stopped then
        let (status?, after) ← (runLines e commands Tool.endless false).run
          { input := inputLines e.ending path text, progress, hold, files := files.toList
            collected? := some "" }
        progress := after.progress
        hold := after.hold
        let rest := String.join (after.input.map fun line =>
          if line.ended then line.text.push e.ending else line.text)
        let mode := ((← Tool.statusOf? path true).map (·.mode)).getD 0o644
        replaceFile path g.value ((after.collected?.getD "") ++ rest) mode
        match status? with
        | some status =>
          if status ≠ 0 then Tool.setStatus status
          stopped := true
        | none => pure ()

end AssetWatch.Utility
