import AssetWatch.Shell.Syntax

/-!
# Reading the words of a script

A script is a list of characters of which the next token is read on demand. The text of an
alias is put in front of what follows, with a mark behind it, so that an alias is not replaced
within its own text. A command that stands in a word is read by the reader of commands, which
is given from outside.
-/

namespace AssetWatch.Shell

/-- A mistake in a script, and the line at which it was noticed. -/
structure Mistake where
  line : Nat
  text : Octets

/-- A text that is announced by a redirection. -/
structure Announcement where
  number : Nat
  ending : Octets
  isQuoted : Bool
  /-- tabs in front of lines do not count -/
  tabs : Bool

structure Source where
  chars : List Char
  line : Nat := 1
  aliases : List (Octets × Octets) := []
  /-- aliases whose text is being read, with whether it ends with a blank -/
  inUse : List (Octets × Bool) := []
  /-- the next word may be an alias, wherever it stands -/
  mayAlias : Bool := false
  pushed : Option Token := none
  announced : List Announcement := []
  documents : Array Word := #[]

abbrev Reader := StateT Source (Except Mistake)

namespace Reader

/-- More than the readers of a script ever nest. -/
def enough : Nat := 1000000000

/-- Stands behind the text of an alias. -/
def mark : Char := '\u0100'

def fail {α : Type} (text : Octets) : Reader α := do throw { line := (← get).line, text }

/-- Drops from the front what does not count: marks and, with `joins`, continued lines. -/
def settle (joins : Bool) (s : Source) : List Char → Source
  | [] => { s with chars := [] }
  | c :: rest =>
    if c = mark then
      match s.inUse with
      | (_, endsBlank) :: inUse =>
        settle joins { s with inUse, mayAlias := s.mayAlias || endsBlank } rest
      | [] => settle joins s rest
    else if c = '\\' && joins then
      match rest with
      | '\n' :: rest => settle joins { s with line := s.line + 1 } rest
      | _ => { s with chars := c :: rest }
    else { s with chars := c :: rest }

def peek (joins : Bool := true) : Reader (Option Char) := do
  let s ← get
  match s.chars with
  | [] => return none
  | c :: _ =>
    if c = mark || (c = '\\' && joins) then
      let s := settle joins s s.chars
      set s
      return s.chars.head?
    else return some c

/-- Takes the character in front. -/
def advance : Reader Unit := modify fun s =>
  match s.chars with
  | [] => s
  | c :: rest => { s with chars := rest, line := if c = '\n' then s.line + 1 else s.line }

/-- Takes characters in front of which the text has no line end. -/
def takeRun (pass : Char → Bool) : Reader Octets := do
  let s ← get
  let (run, rest) := s.chars.span pass
  set { s with chars := rest }
  return String.ofList run

/-- Goes on if this character is in front. -/
def accept (c : Char) : Reader Bool := do
  if (← peek) = some c then
    advance
    return true
  return false

/-! ## Words -/

/-- Where a stretch of a word stands. -/
inductive Mode
  | bare
  | quoted
  /-- in a text that follows a redirection -/
  | document
  | arithmetic
  deriving DecidableEq

structure Scope where
  mode : Mode
  /-- in the braces of a parameter -/
  inBraces : Bool := false
  /-- in quotes within the braces of a parameter that is itself in quotes -/
  inInner : Bool := false
  /-- parentheses that are open in an expression -/
  depth : Nat := 0

namespace Scope

def isBare (s : Scope) : Bool := s.mode = .bare

/-- Ends words outside quotes. -/
def isMeta (c : Char) : Bool :=
  c = ' ' || c = '\t' || c = '\n' || c = ';' || c = '&' || c = '|' || c = '<' || c = '>' ||
    c = '(' || c = ')'

/-- Stands for itself. -/
def isPlain (s : Scope) (c : Char) : Bool :=
  c ≠ '\n' && c ≠ '$' && c ≠ '\\' && c ≠ '"' && c ≠ '`' && c ≠ '\x7d' && c ≠ mark &&
    match s.mode with
    | .bare => c ≠ '\x27' && (s.inBraces || !isMeta c)
    | .arithmetic => c ≠ '(' && c ≠ ')'
    | _ => true

/-- A backslash makes the character stand for itself and goes away. -/
def escapes (s : Scope) (c : Char) : Bool :=
  match s.mode with
  | .bare => true
  | mode =>
    c = '\\' || c = '`' || c = '$' || (c = '"' && (mode ≠ .document || s.inBraces)) ||
      (c = '\x7d' && s.inBraces)

end Scope

/-- The text in backquotes, of which the first is taken already. -/
def untilBackquote (inQuotes : Bool) (s : Source) (taken : List Char) :
    List Char → Except Mistake (List Char × Source)
  | [] => .error { line := s.line, text := "Syntax error: EOF in backquote substitution" }
  | '`' :: rest => .ok (taken.reverse, { s with chars := rest })
  | '\\' :: c :: rest =>
    if c = '\n' then untilBackquote inQuotes { s with line := s.line + 1 } taken rest
    else if c = '\\' || c = '`' || c = '$' || (inQuotes && c = '"') then
      untilBackquote inQuotes s (c :: taken) rest
    else untilBackquote inQuotes s (c :: '\\' :: taken) rest
  | c :: rest =>
    untilBackquote inQuotes (if c = '\n' then { s with line := s.line + 1 } else s)
      (c :: taken) rest

/-- The text up to the next single quote, of which the first is taken already. -/
def singleQuoted : Reader Octets := do
  let s ← get
  let (inner, rest) := s.chars.span (· ≠ '\x27')
  match rest with
  | [] => fail "Syntax error: Unterminated quoted string"
  | _ :: rest =>
    set { s with chars := rest, line := s.line + inner.count '\n' }
    return String.ofList (inner.filter (· ≠ mark))

/-- The operator behind the name of a parameter in braces. -/
def operator : Reader Operator := do
  let colon ← accept ':'
  match ← peek with
  | some '-' => advance; return .default colon
  | some '+' => advance; return .alternative colon
  | some '?' => advance; return .require colon
  | some '=' => advance; return .assign colon
  | some '%' => if colon then return .unknown else advance; return .cutBack (← accept '%')
  | some '#' => if colon then return .unknown else advance; return .cutFront (← accept '#')
  | some '\x7d' => if colon then return .unknown else return .value
  | _ => return .unknown

/-- The name of a parameter, if one is in front. -/
def parameterName (long : Bool) : Reader (Option Octets) := do
  match ← peek with
  | some c =>
    if isNameStart c then return some (← takeRun isNameChar)
    else if c.isDigit && long then return some (← takeRun Char.isDigit)
    else if isSpecial c then
      advance
      return some c.toString
    else return none
  | none => return none

mutual

/-- Reads stretches of a word up to its end, which is taken unless the word is bare; the last
stretch is in front. The flag tells whether anything is quoted. -/
def scan (body : Reader (Option Command)) (fuel : Nat) (scope : Scope) (taken : List Piece)
    (isQuoted : Bool) : Reader (List Piece × Bool) :=
  match fuel with
  | 0 => fail "word too long"
  | fuel + 1 => do
    let quoted := !scope.isBare
    let literal (c : Char) (rest : List Piece) : List Piece := .text c.toString quoted :: rest
    match ← peek with
    | none =>
      match scope.mode with
      | .arithmetic => fail "Syntax error: Missing '))'"
      | .quoted => fail "Syntax error: Unterminated quoted string"
      | _ => if scope.inBraces then fail "Syntax error: Missing '\x7d'" else return (taken, isQuoted)
    | some c =>
      if scope.isPlain c then
        let run ← takeRun scope.isPlain
        scan body fuel scope (.text run quoted :: taken) isQuoted
      else match c with
      | '\\' =>
        advance
        match ← peek false with
        | none => scan body fuel scope (.text "\\" true :: taken) true
        | some d =>
          advance
          let text := if scope.escapes d then d.toString else String.ofList ['\\', d]
          scan body fuel scope (.text text true :: taken) true
      | '$' =>
        advance
        let piece ← dollar body fuel scope
        scan body fuel scope (piece :: taken) isQuoted
      | '`' =>
        advance
        let piece ← backquoted body scope
        scan body fuel scope (piece :: taken) isQuoted
      | '"' =>
        if scope.mode = .document && !scope.inBraces then
          advance
          scan body fuel scope (literal c taken) isQuoted
        else if scope.mode = .arithmetic then
          advance
          scan body fuel scope taken isQuoted
        else if scope.isBare then
          advance
          let (inner, _) ← scan body fuel { mode := .quoted } [] true
          let isAll := match inner with
            | [.parameter "@" .value [] _] => true
            | _ => false
          let inner := if isAll then inner else inner ++ [.text "" true]
          scan body fuel scope (inner ++ taken) true
        else if scope.inBraces then
          advance
          scan body fuel { scope with inInner := !scope.inInner } (.text "" true :: taken) true
        else
          advance
          return (taken, true)
      | '\x27' =>
        if scope.isBare then
          advance
          let text ← singleQuoted
          scan body fuel scope (.text text true :: taken) true
        else
          advance
          scan body fuel scope (literal c taken) isQuoted
      | '\x7d' =>
        advance
        if scope.inBraces && !scope.inInner then return (taken, isQuoted)
        else scan body fuel scope (literal c taken) isQuoted
      | '(' =>
        if scope.mode = .arithmetic then
          advance
          scan body fuel { scope with depth := scope.depth + 1 } (literal c taken) isQuoted
        else return (taken, isQuoted)
      | ')' =>
        if scope.mode = .arithmetic then
          advance
          if 0 < scope.depth then
            scan body fuel { scope with depth := scope.depth - 1 } (literal c taken) isQuoted
          else if ← accept ')' then return (taken, isQuoted)
          else scan body fuel scope (literal c taken) isQuoted
        else return (taken, isQuoted)
      | '\n' =>
        if scope.isBare && !scope.inBraces then return (taken, isQuoted)
        else
          advance
          scan body fuel scope (literal c taken) isQuoted
      | _ => return (taken, isQuoted)

/-- What follows a `$`. -/
def dollar (body : Reader (Option Command)) (fuel : Nat) (scope : Scope) : Reader Piece :=
  match fuel with
  | 0 => fail "word too long"
  | fuel + 1 => do
    let quoted := !scope.isBare
    match ← peek with
    | some '(' =>
      advance
      if ← accept '(' then
        let (inner, _) ← scan body fuel { mode := .arithmetic } [] false
        return .arithmetic inner.reverse quoted
      else
        let s ← get
        set { s with announced := [] }
        let command ← body
        modify fun after => { after with announced := s.announced }
        return .output command quoted
    | some '\x7b' =>
      advance
      braced body fuel scope
    | _ =>
      match ← parameterName false with
      | some name => return .parameter name .value [] quoted
      | none => return .text "$" quoted

/-- What follows a `$` and an opening brace. -/
def braced (body : Reader (Option Command)) (fuel : Nat) (scope : Scope) : Reader Piece :=
  match fuel with
  | 0 => fail "word too long"
  | fuel + 1 => do
    let quoted := !scope.isBare
    let rest (name : Octets) (operator : Operator) : Reader Piece := do
      let mode : Mode := match scope.mode, operator with
        | .arithmetic, .cutFront _ | .arithmetic, .cutBack _ => .bare
        | .arithmetic, _ => .quoted
        | _, .cutFront _ | _, .cutBack _ => .bare
        | mode, _ => mode
      let (inner, _) ← scan body fuel { mode, inBraces := true } [] false
      return .parameter name operator inner.reverse quoted
    if (← peek) = some '#' then
      advance
      match ← peek with
      | some '\x7d' =>
        advance
        return .parameter "#" .value [] quoted
      | some c =>
        let s ← get
        if isNameStart c || isSpecial c then
          let name ← parameterName true
          if ← accept '\x7d' then return .parameter (name.getD "") .length [] quoted
          else
            set s
            rest "#" (← operator)
        else rest "#" (← operator)
      | none => fail "Syntax error: Missing '\x7d'"
    else match ← parameterName true with
      | none => rest "" .unknown
      | some name =>
        match ← operator with
        | .value =>
          advance
          return .parameter name .value [] quoted
        | operator => rest name operator

/-- What follows a backquote. -/
def backquoted (body : Reader (Option Command)) (scope : Scope) : Reader Piece := do
  let s ← get
  let (inner, after) ← untilBackquote (!scope.isBare) s [] s.chars
  set { s with chars := inner ++ [')'], announced := [], inUse := [] }
  let command ← body
  let read ← get
  set { after with documents := read.documents }
  return .output command (!scope.isBare)

end

/-- A word, which may be empty, and whether any of it is quoted. -/
def word (body : Reader (Option Command)) : Reader (Word × Bool) := do
  let (pieces, isQuoted) ← scan body enough { mode := .bare } [] false
  return (pieces.reverse, isQuoted)

/-! ## Texts that follow redirections -/

/-- The lines up to the one that ends a text, the last in front, and what is behind. -/
def documentLines (a : Announcement) : (fuel : Nat) → (joined : Bool) → (taken : List Octets) →
    List Char → List Octets × List Char
  | 0, _, taken, rest => (taken, rest)
  | _, _, taken, [] => (taken, [])
  | fuel + 1, joined, taken, chars =>
    let (line, rest) := chars.span (· ≠ '\n')
    let line := if a.tabs && !joined then line.dropWhile (· = '\t') else line
    if !joined && String.ofList line = a.ending then (taken, rest.drop 1)
    else
      let odd := (line.reverse.takeWhile (· = '\\')).length % 2 = 1
      let text := String.ofList line ++ (if rest.isEmpty then "" else "\n")
      documentLines a fuel (odd && !a.isQuoted) (text :: taken) (rest.drop 1)

/-- Reads the texts that were announced in the line before. -/
def readDocuments (body : Reader (Option Command)) : Reader Unit := do
  let announced := (← get).announced
  for a in announced do
    let s ← get
    let (lines, rest) := documentLines a enough false [] (s.chars.filter (· ≠ mark))
    let text := String.join lines.reverse
    let content ← if a.isQuoted then pure [.text text true] else do
      set { s with chars := text.toList, announced := [] }
      let (pieces, _) ← scan body enough { mode := .document } [] false
      pure pieces.reverse
    modify fun after => { after with
      chars := rest
      line := s.line + (s.chars.count '\n' - rest.count '\n')
      announced := []
      inUse := []
      documents := after.documents.setIfInBounds a.number content }

end Reader

end AssetWatch.Shell
