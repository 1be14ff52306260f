import AssetWatch.Shell.Lexer

/-!
# Reading commands

A script is read one line of commands at a time, so that what stands before a mistake is
still carried out. A word is a keyword or an alias only where a command may begin.
-/

namespace AssetWatch.Shell.Reader

/-- What the next token may be. -/
structure Expecting where
  keywords : Bool := false
  aliases : Bool := false
  /-- line ends do not count -/
  anywhere : Bool := false

/-- A command may begin. -/
def commandStart : Expecting := { keywords := true, aliases := true }

def lineStart : Expecting := { commandStart with anywhere := true }

/-- Blanks and a comment do not count. -/
def skipBlanks : (fuel : Nat) → Reader Unit
  | 0 => return
  | fuel + 1 => do
    match ← peek with
    | some ' ' | some '\t' =>
      let _ ← takeRun fun c => c = ' ' || c = '\t'
      skipBlanks fuel
    | some '#' =>
      let _ ← takeRun (· ≠ '\n')
      skipBlanks fuel
    | _ => return

/-- What follows `<` or `>`, of a descriptor. -/
def redirection (descriptor? : Option Nat) : Reader Token := do
  if ← accept '>' then
    let descriptor := descriptor?.getD 1
    if ← accept '>' then return .redirect .append descriptor
    if ← accept '|' then return .redirect .overwrite descriptor
    if ← accept '&' then return .redirect .copyOutput descriptor
    return .redirect .output descriptor
  else
    advance
    let descriptor := descriptor?.getD 0
    if ← accept '<' then return .here descriptor (← accept '-')
    if ← accept '>' then return .redirect .both descriptor
    if ← accept '&' then return .redirect .copyInput descriptor
    return .redirect .input descriptor

/-- A token as it stands. -/
def rawToken (body : Reader (Option Command)) : Reader Token := do
  match (← get).pushed with
  | some token =>
    modify fun s => { s with pushed := none }
    return token
  | none =>
    skipBlanks enough
    match ← peek with
    | none => return .finish
    | some '\n' =>
      advance
      return .newline
    | some '&' =>
      advance
      return if ← accept '&' then .andAnd else .ampersand
    | some '|' =>
      advance
      return if ← accept '|' then .orOr else .bar
    | some ';' =>
      advance
      return if ← accept ';' then .caseEnd else .semicolon
    | some '(' =>
      advance
      return .left
    | some ')' =>
      advance
      return .right
    | some '<' | some '>' => redirection none
    | some c =>
      match c.isDigit, (← get).chars[1]? with
      | true, some '<' | true, some '>' =>
        advance
        redirection (some (c.toNat - '0'.toNat))
      | _, _ =>
        let (word, isQuoted) ← word body
        return .word word isQuoted

def push (t : Token) : Reader Unit := modify fun s => { s with pushed := some t }

/-- Tokens up to one that is no line end. -/
def skipLines (body : Reader (Option Command)) : (fuel : Nat) → Token → Reader Token
  | 0, t => return t
  | fuel + 1, t => do
    match t with
    | .newline =>
      readDocuments body
      skipLines body fuel (← rawToken body)
    | t => return t

/-- Puts the text of an alias in front of what follows. -/
def insertAlias (name text : Octets) : Reader Unit := modify fun s =>
  { s with
    chars := text.toList ++ mark :: s.chars
    inUse := (name, text.endsWith " " || text.endsWith "\t") :: s.inUse }

/-- The next token. -/
def token (body : Reader (Option Command)) (e : Expecting) : (fuel : Nat) → Reader Token
  | 0 => fail "alias too long"
  | fuel + 1 => do
    let t ← rawToken body
    let t ← if e.anywhere then skipLines body enough t else pure t
    match t with
    | .word w false =>
      match Word.plain? w with
      | none => return t
      | some text =>
        let s ← get
        let aliases := e.aliases || s.mayAlias
        set { s with mayAlias := false }
        match (if e.keywords then Keyword.table.lookup text else none) with
        | some keyword => return .keyword keyword
        | none =>
          match (if aliases then s.aliases.lookup text else none) with
          | none => return t
          | some value =>
            if s.inUse.any (·.1 == text) then return t
            if value ≠ "" then insertAlias text value
            token body e fuel
    | t =>
      modify fun s => { s with mayAlias := false }
      return t

def next (body : Reader (Option Command)) (e : Expecting := {}) : Reader Token :=
  token body e enough

/-- Another token would have been right. -/
def unexpected {α : Type} (t : Token) (wanted? : Option Token := none) : Reader α :=
  let wanted := match wanted? with
    | some wanted => s!" (expecting {wanted.name})"
    | none => ""
  fail s!"Syntax error: {t.name} unexpected{wanted}"

def mistake {α : Type} (text : Octets) : Reader α := fail ("Syntax error: " ++ text)

def sameToken : Token → Token → Bool
  | .keyword a, .keyword b => a == b
  | .right, .right => true
  | _, _ => false

def expect (body : Reader (Option Command)) (wanted : Token) (e : Expecting := {}) :
    Reader Unit := do
  let t ← next body e
  if !sameToken t wanted then unexpected t (some wanted)

/-- The descriptor that a copy names, if its word is a plain number. -/
def plainWord (w : Word) : Option Octets := Word.plain? w

/-- A redirection, from its operator on. -/
def redirect (body : Reader (Option Command)) : Token → Reader (Option Redirect)
  | .redirect kind descriptor => do
    match ← next body with
    | .word target _ => return some (.file kind descriptor target)
    | t => unexpected t
  | .here descriptor tabs => do
    match ← next body with
    | .word w isQuoted =>
      let ending := String.join <| w.map fun
        | .text text _ => text
        | .parameter name _ _ _ => "$" ++ name
        | _ => ""
      let s ← get
      let a : Announcement := { number := s.documents.size, ending, isQuoted, tabs }
      set { s with documents := s.documents.push [], announced := s.announced ++ [a] }
      return some (.document descriptor a.number)
    | t => unexpected t
  | _ => return none

/-- The redirections that follow a command. -/
def redirects (body : Reader (Option Command)) : (fuel : Nat) → Reader (List Redirect)
  | 0 => return []
  | fuel + 1 => do
    let t ← next body commandStart
    match ← redirect body t with
    | some r => return r :: (← redirects body fuel)
    | none =>
      push t
      return []

/-- Splits an assignment off a word. -/
def assignment? : Word → Option (Octets × Word)
  | .text text false :: rest =>
    let name := String.ofList (text.toList.takeWhile isNameChar)
    let behind := text.toList.drop name.length
    match isName name, behind with
    | true, '=' :: value =>
      some (name, if value.isEmpty then rest else .text (String.ofList value) false :: rest)
    | _, _ => none
  | _ => none

/-- The parts of a simple command that have been read, the last in front. -/
structure Parts where
  assignments : List (Octets × Word) := []
  words : List Word := []
  redirects : List Redirect := []

/-- Builtins whose names no function can have. -/
def reservedNames : List String :=
  ["." , ":", "break", "continue", "eval", "exec", "exit", "export", "local", "readonly", "return",
    "set", "shift", "times", "trap", "unset"]

def wordText (w : Word) : Octets := (Word.plain? w).getD ""

/-- The words of a list up to its end. -/
def wordList (body : Reader (Option Command)) : (fuel : Nat) → Reader (List Word × Token)
  | 0 => return ([], .finish)
  | fuel + 1 => do
    match ← next body with
    | .word w _ =>
      let (rest, t) ← wordList body fuel
      return (w :: rest, t)
    | t => return ([], t)

/-- How a list of commands ends. -/
inductive ListKind
  /-- at the end of the line -/
  | line
  /-- at a closing word; there must be a command -/
  | full
  /-- at a closing word; it may be empty -/
  | open
  deriving DecidableEq

mutual

/-- A list of commands; none if it is empty. The flag says that the script has ended. -/
def list (fuel : Nat) (kind : ListKind) (taken : Option Command) : Reader (Option Command × Bool) :=
  match fuel with
  | 0 => mistake "commands nest too deep"
  | fuel + 1 => do
    let body := substitution fuel
    let t ← next body (if kind = .line then commandStart else lineStart)
    match t with
    | .newline =>
      readDocuments body
      return (taken, false)
    | .finish =>
      readDocuments body
      push .finish
      return (taken, true)
    | t =>
      push t
      if t.isCloser && (kind = .open || (kind = .full && taken.isSome)) then
        return (taken, false)
      let line := (← get).line
      let command ← andOr fuel
      let t ← next body
      let command := match t, command with
        | .ampersand, .pipeline commands _ => .pipeline commands true
        | .ampersand, .redirected line command redirects => .background line command redirects
        | .ampersand, command => .background line command []
        | _, command => command
      let taken := match taken with
        | none => command
        | some before => .sequence before command
      match t with
      | .finish =>
        readDocuments body
        push .finish
        return (some taken, true)
      | .newline =>
        push .newline
        list fuel kind (some taken)
      | .ampersand | .semicolon => list fuel kind (some taken)
      | t =>
        if kind = .line then unexpected t
        push t
        return (some taken, false)

/-- The commands in parentheses behind a `$`, up to the closing one. -/
def substitution (fuel : Nat) : Reader (Option Command) :=
  match fuel with
  | 0 => mistake "commands nest too deep"
  | fuel + 1 => do
    let (command, _) ← list fuel .open none
    expect (substitution fuel) .right
    return command

/-- Commands joined by `&&` and `||`. -/
def andOr (fuel : Nat) : Reader Command :=
  match fuel with
  | 0 => mistake "commands nest too deep"
  | fuel + 1 => do
    let first ← pipeline fuel commandStart
    andOrRest fuel first

def andOrRest (fuel : Nat) (first : Command) : Reader Command :=
  match fuel with
  | 0 => mistake "commands nest too deep"
  | fuel + 1 => do
    match ← next (substitution fuel) with
    | .andAnd => andOrRest fuel (.and first (← pipeline fuel lineStart))
    | .orOr => andOrRest fuel (.or first (← pipeline fuel lineStart))
    | t =>
      push t
      return first

def pipeline (fuel : Nat) (e : Expecting) : Reader Command :=
  match fuel with
  | 0 => mistake "commands nest too deep"
  | fuel + 1 => do
    let t ← next (substitution fuel) e
    let negated := match t with
      | .keyword .bang => true
      | _ => false
    if !negated then push t
    let first ← command fuel commandStart
    let more ← pipelineRest fuel
    let joined := if more.isEmpty then first else .pipeline (first :: more) false
    return if negated then .negation joined else joined

def pipelineRest (fuel : Nat) : Reader (List Command) :=
  match fuel with
  | 0 => mistake "commands nest too deep"
  | fuel + 1 => do
    match ← next (substitution fuel) with
    | .bar =>
      let c ← command fuel lineStart
      return c :: (← pipelineRest fuel)
    | t =>
      push t
      return []

def fullList (fuel : Nat) : Reader Command :=
  match fuel with
  | 0 => mistake "commands nest too deep"
  | fuel + 1 => do
    match ← list fuel .full none with
    | (some command, _) => return command
    | (none, _) => return default

def command (fuel : Nat) (e : Expecting) : Reader Command :=
  match fuel with
  | 0 => mistake "commands nest too deep"
  | fuel + 1 => do
    let body := substitution fuel
    let t ← next body e
    let line := (← get).line
    let closed (c : Command) (closer : Token) : Reader Command := do
      expect body closer commandStart
      match ← redirects body enough with
      | [] => return c
      | rs =>
        match c with
        | .subshell line inner _ => return .subshell line inner rs
        | c => return .redirected line c rs
    match t with
    | .keyword .if =>
      let c ← branch fuel
      closed c (.keyword .fi)
    | .keyword .while | .keyword .until =>
      let expected := match t with
        | .keyword .while => true
        | _ => false
      let test ← fullList fuel
      expect body (.keyword .do) commandStart
      let inner ← fullList fuel
      closed (.loop expected test inner) (.keyword .done)
    | .keyword .for =>
      let name ← match ← next body with
        | .word w false =>
          if isName (wordText w) then pure (wordText w) else mistake "Bad for loop variable"
        | _ => mistake "Bad for loop variable"
      let words ← match ← next body lineStart with
        | .keyword .in =>
          match ← wordList body enough with
          | (words, .newline) | (words, .semicolon) => pure words
          | (_, t) => unexpected t
        | .semicolon => pure [[.parameter "@" .value [] true]]
        | t =>
          push t
          pure [[.parameter "@" .value [] true]]
      expect body (.keyword .do) lineStart
      let inner ← fullList fuel
      closed (.each line name words inner) (.keyword .done)
    | .keyword .case =>
      let subject ← match ← next body with
        | .word w _ => pure w
        | t => unexpected t (some (.word [] false))
      expect body (.keyword .in) lineStart
      let cases ← caseItems fuel
      closed (.choice line subject cases) (.keyword .esac)
    | .left =>
      let inner ← fullList fuel
      closed (.subshell line inner []) .right
    | .keyword .open =>
      let inner ← fullList fuel
      closed inner (.keyword .close)
    | .word .. | .redirect .. | .here .. =>
      push t
      simple fuel line { aliases := true } {}
    | t => unexpected t

/-- What follows `if`, up to the closing word. -/
def branch (fuel : Nat) : Reader Command :=
  match fuel with
  | 0 => mistake "commands nest too deep"
  | fuel + 1 => do
    let body := substitution fuel
    let test ← fullList fuel
    expect body (.keyword .then) commandStart
    let inner ← fullList fuel
    match ← next body commandStart with
    | .keyword .elif => return .branch test inner (some (← branch fuel))
    | .keyword .else => return .branch test inner (some (← fullList fuel))
    | t =>
      push t
      return .branch test inner none

/-- The cases up to the closing word, which stays. -/
def caseItems (fuel : Nat) : Reader (List (List Word × Option Command)) :=
  match fuel with
  | 0 => mistake "commands nest too deep"
  | fuel + 1 => do
    let body := substitution fuel
    let inCase : Expecting := { keywords := true, anywhere := true }
    match ← next body inCase with
    | .keyword .esac =>
      push (.keyword .esac)
      return []
    | t =>
      let t ← match t with
        | .left => next body
        | t => pure t
      let patterns ← patternList fuel t
      let (inner, _) ← list fuel .open none
      match ← next body inCase with
      | .caseEnd => return (patterns, inner) :: (← caseItems fuel)
      | .keyword .esac =>
        push (.keyword .esac)
        return [(patterns, inner)]
      | t => unexpected t (some .caseEnd)

/-- Patterns up to the closing parenthesis, from the first on. -/
def patternList (fuel : Nat) (t : Token) : Reader (List Word) :=
  match fuel with
  | 0 => mistake "commands nest too deep"
  | fuel + 1 => do
    let body := substitution fuel
    let pattern ← match t with
      | .word w _ => pure w
      | .keyword k => pure [.text k.text false]
      | t => unexpected t (some .right)
    match ← next body with
    | .bar => return pattern :: (← patternList fuel (← next body))
    | .right => return [pattern]
    | t => unexpected t (some .right)

/-- A simple command, or the definition of a function. -/
def simple (fuel : Nat) (line : Nat) (e : Expecting) (p : Parts) : Reader Command :=
  match fuel with
  | 0 => mistake "commands nest too deep"
  | fuel + 1 => do
    let body := substitution fuel
    let t ← next body e
    let finish : Reader Command := do
      push t
      return .simple line p.assignments.reverse p.words.reverse p.redirects.reverse
    match t with
    | .word w _ =>
      match if e.aliases then assignment? w else none with
      | some a => simple fuel line e { p with assignments := a :: p.assignments }
      | none => simple fuel line {} { p with words := w :: p.words }
    | .redirect .. | .here .. =>
      match ← redirect body t with
      | some r => simple fuel line e { p with redirects := r :: p.redirects }
      | none => finish
    | .left =>
      match p with
      | { assignments := [], words := [w], redirects := [] } =>
        expect body .right
        let name := wordText w
        if !isName name || reservedNames.contains name then mistake "Bad function name"
        let start := (← get).line
        return .function start name (← command fuel lineStart)
      | _ => finish
    | _ => finish

end

/-- The next line of commands: none at the end of the script, and no command in an empty
line. The flag says that nothing follows. -/
def line : Reader (Option (Option Command × Bool)) := do
  modify fun s => { s with pushed := none, announced := [] }
  let (command, ended) ← list enough .line none
  if command.isNone && ended then return none
  return some (command, ended)

end AssetWatch.Shell.Reader
