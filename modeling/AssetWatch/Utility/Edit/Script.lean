import AssetWatch.Utility.Regex
import AssetWatch.Utility.Tool

/-!
# Editing scripts

A script is a list of commands, each with up to two addresses that choose lines. Blocks and
jumps are kept as positions in the list.
-/

namespace AssetWatch.Utility.Edit

inductive Address
  | line (n : Nat)
  | last
  /-- every so many lines, from one on -/
  | step (first step : Nat)
  /-- a line that matches; none is the expression that was used last -/
  | pattern (e? : Option Regex) (foldCase : Bool)

/-- How far a range goes. -/
inductive RangeEnd
  | address (a : Address)
  | more (count : Nat)
  | multiple (n : Nat)

/-- A change of letters in a replacement. -/
inductive Casing
  | upper | lower | upperNext | lowerNext | stop
  deriving DecidableEq

inductive Part
  | text (text : Octets)
  | group (number : Nat)
  | casing (c : Casing)

structure Substitution where
  pattern? : Option Regex
  foldCase : Bool
  hasLines : Bool
  parts : List Part
  /-- the match from which on it is replaced -/
  number : Nat := 1
  all : Bool := false
  prints : Bool := false
  file? : Option Octets := none

inductive Action
  | blockStart (finish : Nat)
  | blockEnd
  | number
  | append (text : Octets)
  | insert (text : Octets)
  | change (text : Octets)
  | delete
  | deleteLine
  | label (name : Octets)
  | jump (name : Octets)
  | jumpIfReplaced (name : Octets)
  | jumpUnlessReplaced (name : Octets)
  | getHold | addHold | hold | holdMore | exchange
  | list
  | next | nextMore
  | print | printLine
  | quit (status : Nat) | quitSilently (status : Nat)
  | readFile (path : Octets)
  | writeFile (path : Octets) | writeLine (path : Octets)
  | substitute (s : Substitution)
  | translate (pairs : List (Char × Char))
  | fileName
  | empty
  | nothing

structure Command where
  first? : Option Address := none
  second? : Option RangeEnd := none
  /-- the range may end at the first line -/
  fromZero : Bool := false
  negated : Bool := false
  action : Action

/-! ## Reading -/

structure Reading where
  rest : List Char
  taken : Nat := 0
  extended : Bool

/-- What is wrong, and how many characters had been read. -/
abbrev Parse := StateT Reading (Except (String × Nat))

def fail {α : Type} (text : String) : Parse α := do throw (text, (← get).taken)

def peek : Parse (Option Char) := do return (← get).rest.head?

def take : Parse (Option Char) := do
  let s ← get
  match s.rest with
  | [] => return none
  | c :: rest =>
    set { s with rest, taken := s.taken + 1 }
    return some c

def takeWhile (pass : Char → Bool) : Parse (List Char) := modifyGet fun s =>
  let run := s.rest.takeWhile pass
  (run, { s with rest := s.rest.drop run.length, taken := s.taken + run.length })

def isBlank (c : Char) : Bool := c = ' ' || c = '\t'

def isSpace (c : Char) : Bool := c = ' ' || ('\t' ≤ c && c ≤ '\r')

def numberOf (ds : List Char) : Nat :=
  ds.foldl (fun n c => n * 10 + (c.toNat - '0'.toNat)) 0

/-- Text up to a delimiter, with the delimiter's own escapes taken off; none at the end. In an
expression the delimiter may stand in brackets. -/
def untilDelimiter (isRegex : Bool) (delimiter : Char) : (fuel : Nat) → (inSet : Nat) →
    List Char → Parse (Option (List Char))
  | 0, _, _ => pure none
  | fuel + 1, inSet, taken => do
    match ← take with
    | none => return none
    | some c =>
      if inSet = 0 && c = delimiter then return some taken.reverse
      else if c = '\n' && inSet = 0 then return none
      else if c = '\\' && inSet = 0 then
        match ← take with
        | none => return none
        | some d =>
          if d = delimiter then
            untilDelimiter isRegex delimiter fuel 0
              (if !isRegex && d = '&' then d :: '\\' :: taken else d :: taken)
          else if d = 'n' && isRegex then untilDelimiter isRegex delimiter fuel 0 ('\n' :: taken)
          else untilDelimiter isRegex delimiter fuel 0 (d :: '\\' :: taken)
      else
        -- the first two characters of a set do not close it
        let inSet := if !isRegex then 0
          else if inSet = 0 then if c = '[' then 1 else 0
          else if inSet = 1 then if c = '^' then 2 else 3
          else if inSet = 2 then 3
          else if c = ']' then 0 else 3
        untilDelimiter isRegex delimiter fuel inSet (c :: taken)

/-- Escapes for characters in an expression or a replacement. -/
def characterEscape : List Char → Option (Char × List Char)
  | 'a' :: rest => some ('\x07', rest)
  | 'f' :: rest => some ('\x0c', rest)
  | 'r' :: rest => some ('\r', rest)
  | 't' :: rest => some ('\t', rest)
  | 'v' :: rest => some ('\x0b', rest)
  | 'x' :: a :: b :: rest =>
    let value (c : Char) : Nat := if c.isDigit then c.toNat - '0'.toNat else c.toLower.toNat - 87
    let isHex (c : Char) : Bool := c.isDigit || ('a' ≤ c.toLower && c.toLower ≤ 'f')
    if isHex a && isHex b then some (Char.ofNat (value a * 16 + value b), rest) else none
  | _ => none

/-- An expression with escapes for characters replaced. -/
def withCharacters : (fuel : Nat) → List Char → List Char
  | 0, cs => cs
  | _, [] => []
  | fuel + 1, '\\' :: rest =>
    match characterEscape rest with
    | some (c, rest) =>
      let isSpecial := "*.[]^$\\/+?()|".toList.contains c
      (if isSpecial then ['\\', c] else [c]) ++ withCharacters fuel rest
    | none =>
      match rest with
      | c :: rest => '\\' :: c :: withCharacters fuel rest
      | [] => ['\\']
  | fuel + 1, c :: rest => c :: withCharacters fuel rest

def compile (cs : List Char) : Parse (Option Regex × Nat) := do
  if cs.isEmpty then return (none, 9)
  let text := String.ofList (withCharacters (cs.length + 1) cs)
  let dialect := if (← get).extended then Regex.Dialect.extended else .basic
  match Regex.parse dialect text with
  | .ok (e, groups) => return (some e, groups)
  | .error text => fail text

/-- Flags behind an address. -/
def addressFlags : (fuel : Nat) → Bool → Parse Bool
  | 0, foldCase => pure foldCase
  | fuel + 1, foldCase => do
    match ← peek with
    | some 'I' =>
      let _ ← take
      addressFlags fuel true
    | some 'M' =>
      let _ ← take
      addressFlags fuel foldCase
    | _ => return foldCase

def patternAddress (delimiter : Char) : Parse Address := do
  match ← untilDelimiter true delimiter Tool.endless 0 [] with
  | none => fail "unterminated address regex"
  | some cs =>
    let foldCase ← addressFlags 8 false
    let (e?, _) ← compile cs
    return .pattern e? foldCase

def address? : Parse (Option Address) := do
  match ← peek with
  | some '$' =>
    let _ ← take
    return some .last
  | some '/' =>
    let _ ← take
    return some (← patternAddress '/')
  | some '\\' =>
    let _ ← take
    match ← take with
    | some c => return some (← patternAddress c)
    | none => fail "unexpected `,'"
  | some c =>
    if !c.isDigit then return none
    let n := numberOf (← takeWhile Char.isDigit)
    if (← peek) = some '~' then
      let _ ← take
      return some (.step n (numberOf (← takeWhile Char.isDigit)))
    else return some (.line n)
  | none => return none

def rangeEnd : Parse RangeEnd := do
  match ← peek with
  | some '+' =>
    let _ ← take
    return .more (numberOf (← takeWhile Char.isDigit))
  | some '~' =>
    let _ ← take
    return .multiple (numberOf (← takeWhile Char.isDigit))
  | _ =>
    match ← address? with
    | some a => return .address a
    | none => fail "unexpected `,'"

/-- Nothing but blanks may stand before the next command. -/
def endOfCommand : Parse Unit := do
  let _ ← takeWhile isBlank
  match ← peek with
  | none | some '\x7d' | some '#' => pure ()
  | some ';' | some '\n' =>
    let _ ← take
  | some _ =>
    let _ ← take
    fail "extra characters after command"

def restOfLine : Parse Octets := do
  let cs ← takeWhile (· ≠ '\n')
  let _ ← take
  return String.ofList cs

def label : Parse Octets := do
  let _ ← takeWhile isSpace
  let cs ← takeWhile fun c => !isSpace c && c ≠ ';'
  return String.ofList cs

/-- Text of lines of which all but the last end with a backslash. -/
def textLines : (fuel : Nat) → List Char → Parse (List Char)
  | 0, taken => pure taken.reverse
  | fuel + 1, taken => do
    match ← take with
    | none => return taken.reverse
    | some '\n' => return taken.reverse
    | some '\\' =>
      match ← take with
      | none => return taken.reverse
      | some c => textLines fuel (c :: taken)
    | some c => textLines fuel (c :: taken)

/-- The text of `a`, `i` or `c`. -/
def givenText : Parse Octets := do
  let _ ← takeWhile isBlank
  match ← peek with
  | none => fail "expected \\ after `a', `c' or `i'"
  | some '\\' =>
    let _ ← take
    let _ ← takeWhile isBlank
    if (← peek) = some '\n' then
      let _ ← take
    let cs ← textLines Tool.endless []
    return String.ofList cs ++ "\n"
  | some _ =>
    let cs ← textLines Tool.endless []
    return String.ofList cs ++ "\n"

/-- The parts of a replacement. -/
def parts : (fuel : Nat) → List Char → List Char → List Part
  | 0, _, _ => []
  | _, [], text => [.text (String.ofList text.reverse)]
  | fuel + 1, c :: rest, text =>
    let cut (p : Part) (rest : List Char) : List Part :=
      .text (String.ofList text.reverse) :: p :: parts fuel rest []
    if c = '&' then cut (.group 0) rest
    else if c ≠ '\\' then parts fuel rest (c :: text)
    else match rest with
      | [] => [.text (String.ofList ('\\' :: text).reverse)]
      | d :: more =>
        if d.isDigit then cut (.group (d.toNat - '0'.toNat)) more
        else match d with
          | 'U' => cut (.casing .upper) more
          | 'L' => cut (.casing .lower) more
          | 'u' => cut (.casing .upperNext) more
          | 'l' => cut (.casing .lowerNext) more
          | 'E' => cut (.casing .stop) more
          | 'n' => parts fuel more ('\n' :: text)
          | d =>
            match characterEscape (d :: more) with
            | some (e, more) => parts fuel more (e :: text)
            | none => parts fuel more (d :: text)

/-- The flags behind a substitution. -/
def substitutionFlags : (fuel : Nat) → (hasNumber : Bool) → Substitution → Parse Substitution
  | 0, _, s => pure s
  | fuel + 1, hasNumber, s => do
    match ← peek with
    | none => return s
    | some c =>
      if c = '\x7d' || c = '#' then return s
      let _ ← take
      match c with
      | ';' | '\n' => return s
      | 'g' =>
        if s.all then fail "multiple `g' options to `s' command"
        substitutionFlags fuel hasNumber { s with all := true }
      | 'p' =>
        if s.prints then fail "multiple `p' options to `s' command"
        substitutionFlags fuel hasNumber { s with prints := true }
      | 'i' | 'I' => substitutionFlags fuel hasNumber { s with foldCase := true }
      | 'm' | 'M' => substitutionFlags fuel hasNumber { s with hasLines := true }
      | 'w' =>
        let _ ← takeWhile isBlank
        let path ← restOfLine
        if path = "" then fail "missing filename in r/R/w/W commands"
        return { s with file? := some path }
      | c =>
        if isBlank c then substitutionFlags fuel hasNumber s
        else if c.isDigit then
          if hasNumber then fail "multiple number options to `s' command"
          let n := numberOf (c :: (← takeWhile Char.isDigit))
          if n = 0 then fail "number option to `s' command may not be zero"
          substitutionFlags fuel true { s with number := n }
        else fail "unknown option to `s'"

def substitution : Parse Substitution := do
  let unterminated {α : Type} : Parse α := fail "unterminated `s' command"
  match ← take with
  | none => unterminated
  | some delimiter =>
    match ← untilDelimiter true delimiter Tool.endless 0 [] with
    | none => unterminated
    | some pattern =>
      match ← untilDelimiter false delimiter Tool.endless 0 [] with
      | none => unterminated
      | some replacement =>
        let made := parts (replacement.length + 1) replacement []
        let s ← substitutionFlags Tool.endless false
          { pattern? := none, foldCase := false, hasLines := false, parts := made }
        let (pattern?, groups) ← compile pattern
        let most := made.foldl (fun n p => match p with
          | .group k => max n k
          | _ => n) 0
        if groups < most then fail s!"invalid reference \\{most} on `s' command's RHS"
        return { s with pattern? }

/-- Characters with backslashes taken off. -/
def plainCharacters : List Char → List Char
  | [] => []
  | '\\' :: '\\' :: rest => '\\' :: plainCharacters rest
  | '\\' :: 'n' :: rest => '\n' :: plainCharacters rest
  | '\\' :: 't' :: rest => '\t' :: plainCharacters rest
  | c :: rest => c :: plainCharacters rest

def translation : Parse (List (Char × Char)) := do
  let unterminated {α : Type} : Parse α := fail "unterminated `y' command"
  match ← take with
  | none => unterminated
  | some delimiter =>
    match ← untilDelimiter false delimiter Tool.endless 0 [] with
    | none => unterminated
    | some source =>
      match ← untilDelimiter false delimiter Tool.endless 0 [] with
      | none => unterminated
      | some target =>
        let source := plainCharacters source
        let target := plainCharacters target
        if source.length ≠ target.length then
          fail "strings for `y' command are different lengths"
        return source.zip target

/-- What a command does, from its letter on. -/
def action (c : Char) (hasAddress hasRange : Bool) : Parse Action := do
  let simple (a : Action) : Parse Action := do
    endOfCommand
    return a
  let single : Parse Unit := do
    if hasRange then fail "command only uses one address"
  let path (make : Octets → Action) : Parse Action := do
    let _ ← takeWhile isBlank
    let name ← restOfLine
    if name = "" then fail "missing filename in r/R/w/W commands"
    return make name
  let labelled (make : Octets → Action) : Parse Action := do
    let name ← label
    if (← peek) = some ';' then
      let _ ← take
    return make name
  let status : Parse Nat := do
    let _ ← takeWhile isBlank
    return numberOf (← takeWhile Char.isDigit)
  match c with
  | '\x7b' => return .blockStart 0
  | '\x7d' =>
    if hasAddress then fail "\x7d doesn't want any addresses"
    simple .blockEnd
  | '=' => simple .number
  | 'a' => return .append (← givenText)
  | 'i' => return .insert (← givenText)
  | 'c' => return .change (← givenText)
  | 'd' => simple .delete
  | 'D' => simple .deleteLine
  | ':' =>
    if hasAddress then fail ": doesn't want any addresses"
    let name ← label
    if name = "" then fail "\":\" lacks a label"
    return .label name
  | 'b' => labelled .jump
  | 't' => labelled .jumpIfReplaced
  | 'T' => labelled .jumpUnlessReplaced
  | 'g' => simple .getHold
  | 'G' => simple .addHold
  | 'h' => simple .hold
  | 'H' => simple .holdMore
  | 'x' => simple .exchange
  | 'l' =>
    let _ ← status
    simple .list
  | 'n' => simple .next
  | 'N' => simple .nextMore
  | 'p' => simple .print
  | 'P' => simple .printLine
  | 'q' =>
    single
    let n ← status
    simple (.quit n)
  | 'Q' =>
    single
    let n ← status
    simple (.quitSilently n)
  | 'r' => path .readFile
  | 'w' => path .writeFile
  | 'W' => path .writeLine
  | 's' => return .substitute (← substitution)
  | 'y' =>
    let pairs ← translation
    simple (.translate pairs)
  | 'F' => simple .fileName
  | 'z' => simple .empty
  | c => fail s!"unknown command: `{c}'"

/-- The commands of a script, the last in front; `opened` holds the positions of open blocks. -/
def commands : (fuel : Nat) → (made : List Command) → (opened : List Nat) → Parse (List Command)
  | 0, made, _ => pure made
  | fuel + 1, made, opened => do
    let _ ← takeWhile fun c => isSpace c || c = ';'
    match ← peek with
    | none =>
      if opened.isEmpty then return made
      throw ("unmatched `\x7b'", 0)
    | some '#' =>
      let _ ← restOfLine
      commands fuel made opened
    | some _ =>
      let first? ← address?
      let _ ← takeWhile isBlank
      let second? ← if first?.isSome && (← peek) = some ',' then do
          let _ ← take
          let _ ← takeWhile isBlank
          some <$> rangeEnd
        else pure none
      let fromZero ← match first?, second? with
        | some (.line 0), some (.address (.pattern ..)) => pure true
        | some (.line 0), _ =>
          let _ ← take
          fail "invalid usage of line address 0"
        | _, _ => pure false
      let _ ← takeWhile isBlank
      let negated := (← peek) = some '!'
      if negated then
        let _ ← take
        let _ ← takeWhile isBlank
        if (← peek) = some '!' then
          let _ ← take
          fail "multiple `!'s"
      match ← take with
      | none => fail "missing command"
      | some '#' => fail "comments don't accept any addresses"
      | some ',' => fail "unexpected `,'"
      | some c =>
        if c = '\x7d' && opened.isEmpty then fail "unexpected `\x7d'"
        let a ← action c first?.isSome second?.isSome
        let place := made.length
        let made := { first?, second?, fromZero, negated, action := a : Command } :: made
        match a with
        | .blockStart _ => commands fuel made (place :: opened)
        | .blockEnd =>
          let start := opened.headD 0
          let closed := made.mapIdx fun i c =>
            if made.length - 1 - i = start then { c with action := .blockStart place } else c
          commands fuel closed (opened.drop 1)
        | _ => commands fuel made opened

/-- Reads a script. -/
def parse (extended : Bool) (text : Octets) : Except (String × Nat) (Array Command) :=
  match (commands (text.length + 2) [] []).run { rest := text.toList, extended } with
  | .ok (made, _) => .ok made.reverse.toArray
  | .error wrong => .error wrong

end AssetWatch.Utility.Edit
