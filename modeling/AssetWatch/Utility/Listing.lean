import AssetWatch.Power
import AssetWatch.Utility.Calendar
import AssetWatch.Utility.Removing

/-!
# Listing entries
-/

namespace AssetWatch.Utility

open Host (Kind Status)

/-- An entry that is listed, with what is known of it. -/
structure Listed where
  name : Octets
  path : Octets
  status : Status

inductive ListOrder
  | name
  | time
  | size
  | ending
  | version
  | none
  deriving DecidableEq

structure ListStyle where
  order : ListOrder := .name
  reverse : Bool := false
  long : Bool := false
  /-- zero shows no names with a dot in front, one all but `.` and `..`, two every name -/
  hidden : Nat := 0
  itself : Bool := false
  deep : Bool := false
  /-- which kinds of entries are marked behind their names -/
  marks : List Char := []
  numbers : Bool := false
  blocks : Bool := false
  readable : Bool := false
  quotes : Bool := false
  escapes : Bool := false
  commas : Bool := false
  follows : Bool := false
  foldersFirst : Bool := false
  showsOwner : Bool := true
  showsGroup : Bool := true
  plainNumbers : Bool := false
  timeFormat? : Option Octets := none

namespace ListStyle

/-- The ending of a name, from its last dot on. -/
def endingOf (name : Octets) : Octets :=
  let pieces := name.splitOn "."
  if pieces.length = 1 then "" else pieces.getLastD ""

/-- Digits in a name count as numbers. -/
def versionKey (name : Octets) : List (Nat × Octets) :=
  let rec go : (fuel : Nat) → List Char → List (Nat × Octets)
    | 0, _ => []
    | _, [] => []
    | fuel + 1, c :: rest =>
      let (run, behind) := (c :: rest).span fun d => d.isDigit = c.isDigit
      if c.isDigit then ((String.ofList run).toNat?.getD 0, "") :: go fuel behind
      else (0, String.ofList run) :: go fuel behind
  go (name.length + 1) name.toList

def versionBefore : List (Nat × Octets) → List (Nat × Octets) → Bool
  | [], _ => true
  | _ :: _, [] => false
  | (m, s) :: as, (n, t) :: bs =>
    if m = n && s = t then versionBefore as bs
    else if m ≠ n && s = "" && t = "" then m < n else s < t

def before (style : ListStyle) (a b : Listed) : Bool :=
  let byName : Bool := a.name ≤ b.name
  match style.order with
  | .name | .none => byName
  | .time => if a.status.modified = b.status.modified then byName
    else b.status.modified < a.status.modified
  | .size => if a.status.size = b.status.size then byName else b.status.size < a.status.size
  | .ending =>
    if endingOf a.name = endingOf b.name then byName else endingOf a.name < endingOf b.name
  | .version => if a.name = b.name then true else versionBefore (versionKey a.name) (versionKey b.name)

def sort (style : ListStyle) (entries : List Listed) : List Listed :=
  let sorted := if style.order = .none then entries else entries.mergeSort style.before
  let sorted := if style.reverse then sorted.reverse else sorted
  if style.foldersFirst then
    let (folders, others) := sorted.partition fun e => e.status.kind = .directory
    folders ++ others
  else sorted

def quoted (style : ListStyle) (name : Octets) : Octets :=
  let escape (c : Char) : Octets :=
    if c = '\\' then "\\\\" else if c = '"' && style.quotes then "\\\""
    else if c = ' ' && !style.quotes then "\\ "
    else if Quoted.isPlain c then c.toString else Quoted.escape c
  if style.quotes then "\"" ++ String.join (name.toList.map escape) ++ "\""
  else if style.escapes then String.join (name.toList.map escape)
  else name

def markOf (style : ListStyle) (st : Status) : Octets :=
  let mark := match st.kind with
    | .directory => '/'
    | .link => '@'
    | .pipe => '|'
    | .file => if st.mode &&& 0o111 ≠ 0 then '*' else ' '
    | .device => ' '
  if style.marks.contains mark then mark.toString else ""

end ListStyle

/-- A size in units that keep it short. -/
def readableSize (n : Nat) : Octets :=
  if n < 1024 then toString n
  else
    let units := ['K', 'M', 'G', 'T', 'P', 'E']
    let k := ((List.range 6).find? fun k => n ≤ 1023 * 1024 ^ (k + 1)).getD 5
    let unit := 1024 ^ (k + 1)
    let letter := (units.getD k 'E').toString
    let tenths := (n * 10 + unit - 1) / unit
    if tenths < 100 then s!"{tenths / 10}.{tenths % 10}{letter}"
    else s!"{(n + unit - 1) / unit}{letter}"

def kindLetter : Kind → Char
  | .directory => 'd'
  | .file => '-'
  | .link => 'l'
  | .device => 'c'
  | .pipe => 'p'

/-- How many units of 512 octets an entry takes. -/
def blocksOf (st : Status) : Nat :=
  match st.kind with
  | .directory => 8
  | .file => (st.size + 4095) / 4096 * 8
  | _ => 0

def showSize (style : ListStyle) (n : Nat) : Octets :=
  if style.readable then readableSize n else toString n

def listTime (style : ListStyle) (now : Nat) (st : Status) : Octets :=
  match style.timeFormat? with
  | some format => dateText format st.modified
  | none =>
    let isRecent := st.modified ≤ now && now < st.modified + 15778476000000
    dateText (if isRecent then "%b %e %H:%M" else "%b %e  %Y") st.modified

/-- The columns that stand in front of a name. -/
def columnsOf (style : ListStyle) (now : Nat) (e : Listed) : List (Bool × Octets) :=
  let st := e.status
  let owner := if style.plainNumbers then "0" else "root"
  let blocks := if style.readable then readableSize (blocksOf st * 512)
    else toString ((blocksOf st + 1) / 2)
  (if style.numbers then [(true, toString st.number)] else []) ++
  (if style.blocks then [(true, blocks)] else []) ++
  (if style.long then
    [(false, (kindLetter st.kind).toString ++ rightsText st.mode), (true, toString st.links)] ++
    (if style.showsOwner then [(false, owner)] else []) ++
    (if style.showsGroup then [(false, owner)] else []) ++
    [(true, showSize style st.size), (true, listTime style now st)]
  else [])

/-- Lists entries that have been put in order. -/
def showEntries (style : ListStyle) (entries : List Listed) : Tool Unit := do
  let now : Nat ← Tool.ask .clock
  let rows := entries.map fun e => (columnsOf style now e, e)
  let count := ((rows.map fun (columns, _) => columns.length).max?).getD 0
  let widths := (List.range count).map fun i =>
    ((rows.map fun (columns, _) => ((columns[i]?).map (·.2.length)).getD 0).max?).getD 0
  let mut texts : Array Octets := #[]
  for (columns, e) in rows do
    let front := (columns.zip widths).map fun ((isRight, text), width) =>
      (if isRight then padLeft width text else padRight width text) ++ " "
    let aim ← if style.long && e.status.kind = .link then
        match ← Tool.ask (.readLink e.path) with
        | .ok aim => pure s!" -> {style.quoted aim}"
        | .error _ => pure ""
      else pure ""
    let mark := if aim = "" then style.markOf e.status else ""
    texts := texts.push (String.join front ++ style.quoted e.name ++ mark ++ aim)
  if style.commas && !style.long then
    if !texts.isEmpty then Tool.printLine (String.intercalate ", " texts.toList)
  else
    for text in texts do
      Tool.printLine text

/-- What is listed of a directory. -/
def readFolder (style : ListStyle) (path : Octets) : Tool (Option (List Listed)) := do
  match ← Tool.ask (.list path) with
  | .error fault =>
    Tool.complain s!"cannot open directory {quoteName path}: {fault.text}" 2
    return none
  | .ok names =>
    let extra := if style.hidden = 2 then [".", ".."] else []
    let shown := extra ++ names.filter fun name => 0 < style.hidden || !name.startsWith "."
    let mut entries : Array Listed := #[]
    for name in shown do
      let inner := within path name
      let status? ← match ← Tool.statusOf? inner style.follows with
        | some st => pure (some st)
        | none => Tool.statusOf? inner false
      match status? with
      | some status => entries := entries.push { name, path := inner, status }
      | none => pure ()
    return some (style.sort entries.toList)

def listFolders (style : ListStyle) : (fuel : Nat) → (isFirst isHeaded : Bool) → List Octets →
    Tool Unit
  | 0, _, _, _ => pure ()
  | _, _, _, [] => pure ()
  | fuel + 1, isFirst, isHeaded, path :: rest => do
    match ← readFolder style path with
    | none => listFolders style fuel isFirst isHeaded rest
    | some entries =>
      if !isFirst then Tool.print "\n"
      if isHeaded then Tool.printLine s!"{style.quoted path}:"
      if style.long || style.blocks then
        let total := entries.foldl (fun total e => total + blocksOf e.status) 0
        let text := if style.readable then readableSize (total * 512) else toString ((total + 1) / 2)
        Tool.printLine s!"total {text}"
      showEntries style entries
      let below := if style.deep then
          entries.filterMap fun e =>
            if e.status.kind = .directory && e.name ≠ "." && e.name ≠ ".." then some e.path else none
        else []
      listFolders style fuel false isHeaded (below ++ rest)

def listOptions : Options := {
  letters := "aAbBcCdDfFgGhHiI:klLmnNopqQrRsStT:uUvw:xXZ1"
  long := [("all", 'a'), ("almost-all", 'A'), ("escape", 'b'), ("directory", 'd'),
    ("no-group", 'G'), ("human-readable", 'h'), ("inode", 'i'), ("ignore", 'I'),
    ("dereference", 'L'), ("numeric-uid-gid", 'n'), ("literal", 'N'), ("quote-name", 'Q'),
    ("reverse", 'r'), ("recursive", 'R'), ("size", 's'), ("width", 'w')]
  words := [("color", .optional), ("classify", .optional), ("file-type", .none),
    ("group-directories-first", .none), ("sort", .required), ("time", .required),
    ("time-style", .required), ("full-time", .none), ("indicator-style", .required),
    ("format", .required), ("quoting-style", .required), ("hide", .required), ("zero", .none)]
  misused := 2 }

def listStyle (found : List Given) : ListStyle :=
  let has := Given.has found
  let long := match Given.last? found ["l", "o", "g", "n", "1", "C", "x", "m", "full-time"] with
    | some g => ["l", "o", "g", "n", "full-time"].contains g.name ||
        (g.name = "1" && (has "l" || has "o" || has "g" || has "n"))
    | none => false
  let order : ListOrder := match Given.last? found ["t", "S", "X", "v", "U", "f", "sort"] with
    | some g =>
      let value := if g.name = "sort" then g.value else g.name
      if value = "t" || value = "time" then .time
      else if value = "S" || value = "size" then .size
      else if value = "X" || value = "extension" then .ending
      else if value = "v" || value = "version" then .version
      else if value = "name" then .name else .none
    | none => .name
  { order
    long
    reverse := has "r"
    hidden := match Given.last? found ["a", "A", "f"] with
      | some g => if g.name = "A" then 1 else 2
      | none => 0
    itself := has "d"
    deep := has "R"
    marks := match Given.last? found ["F", "classify", "p", "file-type"] with
      | some g =>
        if g.name = "p" then ['/'] else if g.name = "file-type" then ['/', '@', '|']
        else ['/', '@', '|', '*']
      | none => []
    numbers := has "i"
    blocks := has "s"
    readable := has "h"
    quotes := has "Q"
    escapes := has "b"
    commas := has "m"
    follows := has "L"
    foldersFirst := has "group-directories-first"
    showsOwner := !has "g"
    showsGroup := !has "o" && !has "G"
    plainNumbers := has "n"
    timeFormat? :=
      if has "full-time" then some "%Y-%m-%d %H:%M:%S.%N %z"
      else match Given.value? found "time-style" with
        | some "long-iso" => some "%Y-%m-%d %H:%M"
        | some "full-iso" => some "%Y-%m-%d %H:%M:%S.%N %z"
        | some "iso" => some "%m-%d %H:%M"
        | some other => if other.startsWith "+" then some (other.drop 1).toString else none
        | none => none }

def ls (words : List Octets) : Tool Unit := do
  let (found, operands) ← listOptions.read words
  let style := listStyle found
  let mut files : Array Listed := #[]
  let mut folders : Array Listed := #[]
  let mut isMissing := false
  for path in if operands.isEmpty then ["."] else operands do
    let follows := style.follows || !(style.long || style.itself || style.marks.contains '*')
    let seen ← match ← Tool.ask (.status path follows) with
      | .ok st => pure (.ok st)
      | .error fault =>
        if style.follows then pure (.error fault) else Tool.ask (.status path false)
    match seen with
    | .error fault =>
      Tool.complain s!"cannot access {quoteName path}: {fault.text}" 2
      isMissing := true
    | .ok status =>
      let entry : Listed := { name := path, path, status }
      if status.kind = .directory && !style.itself then folders := folders.push entry
      else files := files.push entry
  showEntries style (style.sort files.toList)
  let headed := 1 < folders.size || !files.isEmpty || isMissing || style.deep
  listFolders style Tool.endless files.isEmpty headed ((style.sort folders.toList).map (·.path))

/-! ## One entry -/

def kindName (st : Status) : Octets :=
  match st.kind with
  | .directory => "directory"
  | .file => if st.size = 0 then "regular empty file" else "regular file"
  | .link => "symbolic link"
  | .device => "character special file"
  | .pipe => "fifo"

def kindBits : Kind → Nat
  | .directory => 0o040000
  | .file => 0o100000
  | .link => 0o120000
  | .device => 0o020000
  | .pipe => 0o010000

def fullTime (time : Nat) : Octets := dateText "%Y-%m-%d %H:%M:%S.%N %z" time

/-- The text of a mark in a format for an entry. -/
def statusMark (path : Octets) (st : Status) (aim? : Option Octets) (c : Char) : Octets :=
  match c with
  | 'n' => path
  | 'N' => match aim? with
    | some aim => s!"{quoteName path} -> {quoteName aim}"
    | none => quoteName path
  | 's' => toString st.size
  | 'a' => String.ofList (Nat.toDigits 8 (st.mode &&& 0o7777))
  | 'A' => (kindLetter st.kind).toString ++ rightsText st.mode
  | 'f' => String.ofList (Nat.toDigits 16 (kindBits st.kind + (st.mode &&& 0o7777)))
  | 'F' => kindName st
  | 'i' => toString st.number
  | 'h' => toString st.links
  | 'u' | 'g' => "0"
  | 'U' | 'G' => "root"
  | 'b' => toString (blocksOf st)
  | 'B' => "512"
  | 'o' => "4096"
  | 'd' => "2049"
  | 'D' => "801"
  | 't' | 'T' => "0"
  | 'm' => "/"
  | 'x' | 'y' | 'z' => fullTime st.modified
  | 'X' | 'Y' | 'Z' => toString (st.modified / 1000000)
  | 'w' => "-"
  | 'W' => "0"
  | '%' => "%"
  | _ => "?"

def statusFormat (isPrinted : Bool) (path : Octets) (st : Status) (aim? : Option Octets) :
    (fuel : Nat) → List Char → Octets
  | 0, _ => ""
  | _, [] => ""
  | fuel + 1, '%' :: rest =>
    let flags := rest.takeWhile fun c => c.isDigit || c = '-' || c = '.'
    match rest.drop flags.length with
    | [] => "%"
    | c :: more =>
      let text := statusMark path st aim? c
      let width := ((String.ofList (flags.filter Char.isDigit)).toNat?).getD 0
      let text := if flags.contains '-' then padRight width text
        else if flags.head? = some '0' then replicate (width - text.length) '0' ++ text
        else padLeft width text
      text ++ statusFormat isPrinted path st aim? fuel more
  | fuel + 1, c :: rest =>
    match isPrinted, c, rest with
    | true, '\\', 'n' :: more => "\n" ++ statusFormat isPrinted path st aim? fuel more
    | true, '\\', 't' :: more => "\t" ++ statusFormat isPrinted path st aim? fuel more
    | true, '\\', '\\' :: more => "\\" ++ statusFormat isPrinted path st aim? fuel more
    | _, _, _ => c.toString ++ statusFormat isPrinted path st aim? fuel rest

/-- What is told of an entry when no format is given. -/
def statusText (path : Octets) (st : Status) (aim? : Option Octets) : Octets :=
  let mark (c : Char) : Octets := statusMark path st aim? c
  let name := if aim?.isSome then mark 'N' else path
  let rights := mark 'A'
  let time := fullTime st.modified
  s!"  File: {name}\n" ++
  s!"  Size: {padRight 10 (toString st.size)}\tBlocks: {padRight 10 (toString (blocksOf st))} " ++
  s!"IO Block: 4096   {kindName st}\n" ++
  s!"Device: 8,1\tInode: {padRight 11 (toString st.number)} Links: {st.links}\n" ++
  s!"Access: ({octalText 4 (st.mode &&& 0o7777)}/{rights})  Uid: (    0/    root)   Gid: (    0/    root)\n" ++
  s!"Access: {time}\nModify: {time}\nChange: {time}\n Birth: -\n"

def stat (words : List Octets) : Tool Unit := do
  let (found, paths) ← Options.read {
    letters := "Lfc:t"
    long := [("dereference", 'L'), ("file-system", 'f'), ("format", 'c'), ("terse", 't')]
    words := [("printf", .required), ("cached", .required)] } words
  if paths.isEmpty then Tool.misuse "missing operand"
  for path in paths do
    match ← Tool.ask (.status path (Given.has found "L")) with
    | .error fault => Tool.complain s!"cannot statx {quoteName path}: {fault.text}"
    | .ok st =>
      let aim? ← if st.kind = .link then pure (← Tool.ask (.readLink path)).toOption else pure none
      match Given.last? found ["c", "printf"] with
      | some g =>
        let isPrinted := g.name = "printf"
        let text := statusFormat isPrinted path st aim? (g.value.length + 1) g.value.toList
        Tool.print (if isPrinted then text else text.push '\n')
      | none => Tool.print (statusText path st aim?)

end AssetWatch.Utility
