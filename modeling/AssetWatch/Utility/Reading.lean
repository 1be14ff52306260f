import AssetWatch.Utility.Input

/-!
# Utilities that show files

Whole, from the front, from the back, numbered, turned round or counted.
-/

namespace AssetWatch.Utility

/-! ## Joining -/

structure Shown where
  numbers : Bool := false
  onlyFilled : Bool := false
  ends : Bool := false
  squeezes : Bool := false
  tabs : Bool := false
  marks : Bool := false

namespace Shown

/-- A character as it is shown. -/
def char (s : Shown) (c : Char) : String :=
  let low (n : Nat) : String :=
    if n < 32 then String.ofList ['^', Char.ofNat (n + 64)]
    else if n = 127 then "^?" else (Char.ofNat n).toString
  if c = '\n' then "\n"
  else if c = '\t' then if s.tabs then "^I" else "\t"
  else if !s.marks then c.toString
  else if c.toNat < 128 then low c.toNat
  else "M-" ++ low (c.toNat - 128)

/-- Pieces as they are shown; `number` counts lines, and `blanks` the empty ones in a row. -/
def lines (s : Shown) : (number blanks : Nat) → List Octets → List Octets
  | _, _, [] => []
  | number, blanks, piece :: rest =>
    let isEmpty := piece = "\n"
    if s.squeezes && isEmpty && 1 ≤ blanks then s.lines number (blanks + 1) rest
    else
      let counts := s.numbers && !(s.onlyFilled && isEmpty)
      let front := if counts then padLeft 6 (toString (number + 1)) ++ "\t" else ""
      let body := String.join (piece.toList.map s.char)
      let body := if s.ends && body.endsWith "\n" then (body.dropEnd 1).toString ++ "$\n" else body
      (front ++ body) :: s.lines (if counts then number + 1 else number)
        (if isEmpty then blanks + 1 else 0) rest

end Shown

/-- Whether a file is the one that the utility writes to. -/
def isOwnOutput (path : Octets) : Tool Bool := do
  match ← Tool.ask (.statusOf 1),
      ← if path = "-" then Tool.ask (.statusOf 0) else Tool.ask (.status path true) with
  | .ok out, .ok file =>
    return out.kind = .file && file.kind = .file && out.number = file.number && 0 < file.size
  | _, _ => return false

def cat (words : List Octets) : Tool Unit := do
  let (found, paths) ← Options.read {
    letters := "AbeEnstTuv"
    long := [("show-all", 'A'), ("number-nonblank", 'b'), ("show-ends", 'E'), ("number", 'n'),
      ("squeeze-blank", 's'), ("show-tabs", 'T'), ("show-nonprinting", 'v')] } words
  let has := Given.has found
  let shown : Shown := {
    numbers := has "n" || has "b"
    onlyFilled := has "b"
    ends := has "A" || has "e" || has "E"
    squeezes := has "s"
    tabs := has "A" || has "t" || has "T"
    marks := has "A" || has "e" || has "t" || has "v" }
  let isPlain := !(shown.numbers || shown.ends || shown.squeezes || shown.tabs || shown.marks)
  let mut all : Array Octets := #[]
  for path in if paths.isEmpty then ["-"] else paths do
    if ← isOwnOutput path then Tool.complain s!"{showName path}: input file is output file"
    else match ← Tool.readFile path with
      | .error fault => Tool.complain (plainReport path fault)
      | .ok text => if isPlain then Tool.print text else all := all.push text
  if !isPlain then
    Tool.print (String.join (shown.lines 0 0 (pieces '\n' (String.join all.toList))))

def tac (words : List Octets) : Tool Unit := do
  let (_, paths) ← Options.read { letters := "b", long := [("before", 'b')] } words
  for (_, text) in ← readFiles (fun path fault =>
      s!"failed to open {quoteName path} for reading: {fault.text}") paths do
    Tool.print (String.join (pieces '\n' text).reverse)

def rev (words : List Octets) : Tool Unit := do
  let (_, paths) ← Options.read {} words
  let report (path : Octets) (fault : Host.Fault) : Octets := s!"cannot open {path}: {fault.text}"
  for (_, text) in ← readFiles report paths do
    Tool.print <| String.join <| (pieces '\n' text).map fun piece =>
      if piece.endsWith "\n" then reverseText (piece.dropEnd 1).toString ++ "\n"
      else reverseText piece

/-! ## Numbering -/

/-- Lines with their numbers. -/
def numbered (pass : Octets → Bool) (width : Nat) (separator : Octets) :
    (number : Nat) → List Octets → List Octets
  | _, [] => []
  | number, line :: rest =>
    if pass line then (padLeft width (toString number) ++ separator ++ line) ::
      numbered pass width separator (number + 1) rest
    else (replicate (width + separator.length) ' ' ++ line) ::
      numbered pass width separator number rest

def nl (words : List Octets) : Tool Unit := do
  let (found, paths) ← Options.read {
    letters := "b:w:s:v:n:i:"
    long := [("body-numbering", 'b'), ("number-width", 'w'), ("number-separator", 's'),
      ("starting-line-number", 'v'), ("number-format", 'n'), ("line-increment", 'i')] } words
  let text ← readTogether paths
  let pass (line : Octets) : Bool := match Given.value? found "b" with
    | some "a" => true
    | some "n" => false
    | _ => line ≠ ""
  let width := ((Given.value? found "w").bind (·.toNat?)).getD 6
  let first := ((Given.value? found "v").bind (·.toNat?)).getD 1
  let separator := (Given.value? found "s").getD "\t"
  Tool.print (joinLines '\n' (numbered pass width separator first (linesOf '\n' text)))

/-! ## Ends of files -/

def endingOf (found : List Given) : Char := if Given.has found "z" then '\x00' else '\n'

/-- How much of a file is shown. -/
inductive Extent
  | front (count : Nat)
  | allButBack (count : Nat)
  | back (count : Nat)
  | from (count : Nat)

def Extent.take (e : Extent) (byBytes : Bool) (ending : Char) (text : Octets) : Octets :=
  let cut {α : Type} (all : List α) : List α := match e with
    | .front n => all.take n
    | .allButBack n => all.take (all.length - n)
    | .back n => all.drop (all.length - n)
    | .from n => all.drop (n - 1)
  if byBytes then String.ofList (cut text.toList) else String.join (cut (pieces ending text))

/-- Reads as much as is needed to show a part. -/
def Extent.read (e : Extent) (byBytes : Bool) (ending : Char) (descriptor : Nat) :
    Tool (Except Host.Fault Octets) :=
  match e with
  | .front n =>
    let measure (text : Octets) : Nat :=
      if byBytes then text.length else text.foldl (fun n c => if c = ending then n + 1 else n) 0
    Tool.readEnough descriptor measure n
  | _ => Tool.readAll descriptor

/-- Shows parts of files, with headings if they are several. -/
def showParts (found : List Given) (paths : List Octets) (extent : Extent) (byBytes : Bool) :
    Tool Unit := do
  let ending := endingOf found
  let paths := if paths.isEmpty then ["-"] else paths
  let wanted : Bool := match Given.last? found ["q", "v"] with
    | some g => g.name == "v"
    | none => decide (1 < paths.length)
  let mut isFirst := true
  for path in paths do
    let opened ←
      if path = "-" then pure (.ok 0) else Tool.ask (.openFile path Host.Access.reading)
    match opened with
    | .error fault => Tool.complain s!"cannot open {quoteName path} for reading: {fault.text}"
    | .ok descriptor =>
      if wanted then
        let name := if path = "-" then "standard input" else path
        let gap := if isFirst then "" else "\n"
        Tool.print s!"{gap}==> {name} <==\n"
      isFirst := false
      match ← extent.read byBytes ending descriptor with
      | .ok text => Tool.print (extent.take byBytes ending text)
      | .error fault => Tool.complain s!"error reading {quoteName path}: {fault.text}"
      if path ≠ "-" then
        let _ ← Tool.ask (.close descriptor)

def wrongCount {α : Type} (byBytes : Bool) (value : Octets) : Tool α :=
  let kind := if byBytes then "bytes" else "lines"
  Tool.fail s!"invalid number of {kind}: {quoteText value}"

/-- Words in which an old-fashioned count in front is a proper option. -/
def modernCount (words : List Octets) : List Octets :=
  match words with
  | word :: rest =>
    let body := (word.drop 1).toString
    let digits := (body.takeWhile Char.isDigit).toString
    let letters := (body.drop digits.length).toString
    if word.startsWith "-" && digits ≠ "" && letters.all fun c => "cqvzlfbkm".toList.contains c then
      let kind := if letters.toList.contains 'c' then "-c" else "-n"
      let others := letters.toList.filter fun c => c = 'q' || c = 'v' || c = 'z'
      kind :: digits :: others.map (fun c => String.ofList ['-', c]) ++ rest
    else words
  | [] => []

def head (words : List Octets) : Tool Unit := do
  let (found, paths) ← Options.read {
    letters := "c:n:qvz"
    long := [("bytes", 'c'), ("lines", 'n'), ("quiet", 'q'), ("silent", 'q'), ("verbose", 'v'),
      ("zero-terminated", 'z')] } (modernCount words)
  let chosen := Given.last? found ["c", "n"]
  let byBytes := (chosen.map (·.name)) == some "c"
  let extent ← match chosen with
    | none => pure (Extent.front 10)
    | some g =>
      let isBack := g.value.startsWith "-"
      let digits := if isBack || g.value.startsWith "+" then (g.value.drop 1).toString else g.value
      match sized? digits with
      | some n => pure (if isBack then .allButBack n else .front n)
      | none => wrongCount byBytes g.value
  showParts found paths extent byBytes

def tail (words : List Octets) : Tool Unit := do
  let words := match words with
    | word :: rest =>
      if word.startsWith "+" && isDigits (word.drop 1).toString then "-n" :: word :: rest
      else modernCount words
    | [] => []
  let (found, paths) ← Options.read {
    letters := "c:n:qvzfF"
    long := [("bytes", 'c'), ("lines", 'n'), ("quiet", 'q'), ("silent", 'q'), ("verbose", 'v'),
      ("zero-terminated", 'z'), ("follow", 'f')] } words
  let chosen := Given.last? found ["c", "n"]
  let byBytes := (chosen.map (·.name)) == some "c"
  let extent ← match chosen with
    | none => pure (Extent.back 10)
    | some g =>
      let isFrom := g.value.startsWith "+"
      let digits := if isFrom || g.value.startsWith "-" then (g.value.drop 1).toString else g.value
      match sized? digits with
      | some n => pure (if isFrom then .from n else .back n)
      | none => wrongCount byBytes g.value
  showParts found paths extent byBytes

/-! ## Counting -/

structure Count where
  lines : Nat := 0
  words : Nat := 0
  chars : Nat := 0
  widest : Nat := 0

namespace Count

def add (a b : Count) : Count :=
  { lines := a.lines + b.lines, words := a.words + b.words, chars := a.chars + b.chars
    widest := max a.widest b.widest }

def isSpace (c : Char) : Bool := c = ' ' || ('\t' ≤ c && c ≤ '\r')

/-- The count so far, whether a word goes on, and how wide the line is. -/
def step (s : Count × Bool × Nat) (c : Char) : Count × Bool × Nat :=
  let (n, inWord, column) := s
  let isEnd := c = '\n' || c = '\r' || c = '\x0c'
  let column := if isEnd then 0
    else if c = '\t' then column + 8 - column % 8
    else if ' ' ≤ c && c.toNat < 127 then column + 1 else column
  let isWord := !isSpace c && (' ' ≤ c && c.toNat ≠ 127 || inWord)
  ({ lines := if c = '\n' then n.lines + 1 else n.lines
     words := if isWord && !inWord then n.words + 1 else n.words
     chars := n.chars + 1
     widest := max n.widest column }, isWord, column)

def ofText (text : Octets) : Count := (text.foldl step ({}, false, 0)).1

def columns (found : List Given) (n : Count) : List Nat :=
  let has := Given.has found
  let all := !(has "l" || has "w" || has "c" || has "m" || has "L")
  (if all || has "l" then [n.lines] else []) ++ (if all || has "w" then [n.words] else []) ++
    (if has "m" then [n.chars] else []) ++ (if all || has "c" then [n.chars] else []) ++
    (if has "L" then [n.widest] else [])

end Count

def wc (words : List Octets) : Tool Unit := do
  let (found, paths) ← Options.read {
    letters := "clLmw"
    long := [("bytes", 'c'), ("chars", 'm'), ("lines", 'l'), ("words", 'w'),
      ("max-line-length", 'L')] } words
  let operands := if paths.isEmpty then ["-"] else paths
  let mut least := 1
  let mut sizes := 0
  for path in operands do
    let reply ← if path = "-" then Tool.ask (.statusOf 0) else Tool.ask (.status path true)
    match reply with
    | .ok st => if st.kind = .file then sizes := sizes + st.size else least := 7
    | .error _ => pure ()
  let isSingle := operands.length ≤ 1 && (Count.columns found {}).length = 1
  let width := if isSingle then 1 else max least (toString sizes).length
  let line (n : Count) (name : Octets) : Octets :=
    let numbers := (Count.columns found n).map fun k => padLeft width (toString k)
    String.intercalate " " numbers ++ (if name = "" then "" else " " ++ name)
  let mut total : Count := {}
  for path in operands do
    match ← Tool.readFile path with
    | .ok text =>
      let n := Count.ofText text
      total := total.add n
      Tool.printLine (line n (if paths.isEmpty then "" else path))
    | .error fault =>
      Tool.complain (plainReport path fault)
      if fault = .isDirectory then Tool.printLine (line {} path)
  if 1 < operands.length then Tool.printLine (line total "total")

/-! ## Copying -/

def tee (words : List Octets) : Tool Unit := do
  let (found, paths) ← Options.read {
    letters := "aip"
    long := [("append", 'a'), ("ignore-interrupts", 'i')] } words
  let access := if Given.has found "a" then Host.Access.appending else Host.Access.writing
  let mut opened : Array (Octets × Nat) := #[]
  for path in paths do
    match ← Tool.ask (.openFile path access) with
    | .ok descriptor => opened := opened.push (path, descriptor)
    | .error fault => Tool.complain (plainReport path fault)
  match ← Tool.readAll 0 with
  | .error fault => Tool.complain s!"read error: {fault.text}"
  | .ok text =>
    Tool.print text
    Tool.flush
    for (path, descriptor) in opened do
      if text ≠ "" then
        if let .error fault := ← Tool.ask (.write descriptor text.bytes) then
          Tool.complain (plainReport path fault)

/-! ## Breaking lines -/

/-- Breaks a line into pieces of a width, behind a blank if there is one and `atBlanks`. -/
def foldLine (width : Nat) (atBlanks : Bool) : (fuel : Nat) → List Char → List Octets
  | 0, cs => [String.ofList cs]
  | fuel + 1, cs =>
    if cs.length ≤ width then [String.ofList cs]
    else
      let front := cs.take width
      let behind := (front.reverse.takeWhile (· ≠ ' ')).length
      let length := if atBlanks && behind < width then width - behind else width
      String.ofList (cs.take length) :: foldLine width atBlanks fuel (cs.drop length)

def fold (words : List Octets) : Tool Unit := do
  let (found, paths) ← Options.read {
    letters := "bsw:"
    long := [("bytes", 'b'), ("spaces", 's'), ("width", 'w')] } (modern words)
  let width ← match Given.value? found "w" with
    | none => pure 80
    | some value => match value.toNat? with
      | some n => if 0 < n then pure n else wrong value
      | none => wrong value
  let text ← readTogether paths
  let atBlanks := Given.has found "s"
  for piece in pieces '\n' text do
    let body := if piece.endsWith "\n" then (piece.dropEnd 1).toString else piece
    let broken := String.intercalate "\n" (foldLine width atBlanks (body.length + 1) body.toList)
    Tool.print (if piece.endsWith "\n" then broken ++ "\n" else broken)
where
  wrong (value : Octets) : Tool Nat := Tool.fail s!"invalid number of columns: {quoteText value}"
  modern (words : List Octets) : List Octets := words.map fun word =>
    if word.startsWith "-" && isDigits (word.drop 1).toString then
      "-w" ++ (word.drop 1).toString else word

end AssetWatch.Utility
