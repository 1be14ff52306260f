import AssetWatch.Host.Call

/-!
# Conditions

Conditions on texts, numbers and files, as they are written for `test` and in brackets. Nothing
at all is false, and one word is true unless it is empty. Which words are operators is decided
by what stands around them, so that an operand may look like one.
-/

namespace AssetWatch.Utility

open Host (Call Fault Kind Proc Status)

/-- What is asked of a file. -/
inductive FileTest
  | isThere
  | isFile
  | isDirectory
  | isDevice
  | isPipe
  | isSocket
  | isLink
  | isNotEmpty
  | mayRead
  | mayRun
  | hasMode (mask : Nat)
  deriving DecidableEq

/-- How two files compare. -/
inductive FileOrder
  | newer
  | older
  | same
  deriving DecidableEq

inductive Condition
  | constant (value : Bool)
  | isText (text : Octets)
  | compare (pass : Ordering → Bool) (a b : Octets)
  | numbers (pass : Ordering → Bool) (a b : Octets)
  | terminal (descriptor : Octets)
  | file (test : FileTest) (path : Octets)
  | files (order : FileOrder) (a b : Octets)
  | not (c : Condition)
  | and (c d : Condition)
  | or (c d : Condition)

namespace Condition

/-! ## Operators -/

/-- Operators in front of one operand. -/
def unary : List (String × (Octets → Condition)) := [
  ("-n", .isText), ("-z", fun s => .not (.isText s)), ("-t", .terminal),
  ("-e", .file .isThere), ("-f", .file .isFile), ("-d", .file .isDirectory),
  ("-c", .file .isDevice), ("-b", .file .isSocket), ("-p", .file .isPipe),
  ("-S", .file .isSocket), ("-h", .file .isLink), ("-L", .file .isLink),
  ("-s", .file .isNotEmpty), ("-r", .file .mayRead), ("-w", .file .mayRead),
  ("-x", .file .mayRun), ("-u", .file (.hasMode 0o4000)), ("-g", .file (.hasMode 0o2000)),
  ("-k", .file (.hasMode 0o1000)), ("-O", .file .isThere), ("-G", .file .isThere)]

/-- Operators between two operands. -/
def binary : List (String × (Octets → Octets → Condition)) := [
  ("=", .compare (· == .eq)), ("!=", .compare (· != .eq)),
  ("<", .compare (· == .lt)), (">", .compare (· == .gt)),
  ("-eq", .numbers (· == .eq)), ("-ne", .numbers (· != .eq)),
  ("-ge", .numbers (· != .lt)), ("-gt", .numbers (· == .gt)),
  ("-le", .numbers (· != .gt)), ("-lt", .numbers (· == .lt)),
  ("-nt", .files .newer), ("-ot", .files .older), ("-ef", .files .same)]

/-- What differs between those who read conditions. -/
structure Style where
  /-- further operators between two operands -/
  more : List (String × (Octets → Octets → Condition)) := []
  /-- what is said when words are left: the last word that was read, and the next one -/
  unexpected : Octets → Octets → Octets
  missing : Octets → Octets
  unclosed : Octets
  notNumber : Octets → Octets

inductive Lexeme
  | finish
  | operand
  | unary (make : Octets → Condition)
  | binary (make : Octets → Octets → Condition)
  | not
  | and
  | or
  | left
  | right

namespace Lexeme

def isBinary : Lexeme → Bool
  | .binary _ => true
  | _ => false

end Lexeme

/-- A word on its own. -/
def lexemeOf (st : Style) (word : Octets) : Lexeme :=
  match word with
  | "!" => .not
  | "-a" => .and
  | "-o" => .or
  | "(" => .left
  | ")" => .right
  | word =>
    match unary.lookup word, (binary ++ st.more).lookup word with
    | some make, _ => .unary make
    | none, some make => .binary make
    | none, none => .operand

/-- The word in front, seen with what follows it. -/
def lexeme (st : Style) : List Octets → Lexeme
  | [] => .finish
  | word :: rest =>
    match lexemeOf st word, rest with
    | .unary _, [] => .operand
    | .unary make, next :: _ :: _ =>
      if (lexemeOf st next).isBinary then .operand else .unary make
    | .left, [] => .operand
    | l, _ => l

/-! ## Reading

A reader gives a condition and the words from the last one that it has taken on. -/

abbrev Parsed := Except Octets (Condition × List Octets)

mutual

def disjunction (st : Style) (fuel : Nat) (l : Lexeme) (words : List Octets) : Parsed :=
  match fuel with
  | 0 => .error "too many words"
  | fuel + 1 => do
    let (c, words) ← conjunction st fuel l words
    match lexeme st (words.drop 1) with
    | .or =>
      let words := words.drop 2
      let (d, words) ← disjunction st fuel (lexeme st words) words
      return (.or c d, words)
    | _ => return (c, words)

def conjunction (st : Style) (fuel : Nat) (l : Lexeme) (words : List Octets) : Parsed :=
  match fuel with
  | 0 => .error "too many words"
  | fuel + 1 => do
    let (c, words) ← negation st fuel l words
    match lexeme st (words.drop 1) with
    | .and =>
      let words := words.drop 2
      let (d, words) ← conjunction st fuel (lexeme st words) words
      return (.and c d, words)
    | _ => return (c, words)

def negation (st : Style) (fuel : Nat) (l : Lexeme) (words : List Octets) : Parsed :=
  match fuel with
  | 0 => .error "too many words"
  | fuel + 1 => do
    match l with
    | .not =>
      let rest := words.drop 1
      let l := lexeme st rest
      let (c, words) ← negation st fuel l (if rest.isEmpty then words else rest)
      return (.not c, words)
    | l => primary st fuel l words

def primary (st : Style) (fuel : Nat) (l : Lexeme) (words : List Octets) : Parsed :=
  match fuel with
  | 0 => .error "too many words"
  | fuel + 1 => do
    match l with
    | .finish => return (.constant false, words)
    | .left =>
      let words := words.drop 1
      match lexeme st words with
      | .right => return (.constant false, words)
      | l =>
        let (c, words) ← disjunction st fuel l words
        let words := words.drop 1
        match lexeme st words with
        | .right => return (c, words)
        | _ => .error st.unclosed
    | .unary make =>
      match words with
      | _ :: operand :: rest => return (make operand, operand :: rest)
      | words => .error (st.missing (words.headD ""))
    | _ =>
      match words with
      | a :: op :: rest =>
        match lexeme st (op :: rest), rest with
        | .binary make, b :: rest => return (make a b, b :: rest)
        | .binary _, [] => .error (st.missing op)
        | _, _ => return (.isText a, words)
      | words => return (.isText (words.headD ""), words)

end

/-- Reads words that no rule for their number covers. -/
def general (st : Style) (l : Lexeme) (words : List Octets) : Except Octets Condition := do
  let (c, words) ← disjunction st (8 * words.length + 8) l words
  match words with
  | last :: extra :: _ => .error (st.unexpected last extra)
  | _ => return c

/-- Reads a condition. Of three or four words, what they mean hangs on their number. -/
def parse (st : Style) (words : List Octets) : Except Octets Condition :=
  let isComparison := match words with
    | [_, op, _] => (lexemeOf st op).isBinary
    | _ => false
  let isShort := words.length = 3 || words.length = 4
  match words with
  | [] => .ok (.constant false)
  | word :: rest =>
    if isComparison then general st .operand (word :: rest)
    else if isShort && word = "(" && rest.getLast? == some ")" then
      general st (lexeme st rest.dropLast) rest.dropLast
    else if isShort && word = "!" then (parse st rest).map .not
    else general st (lexeme st (word :: rest)) (word :: rest)

/-! ## Deciding -/

def fileHolds (test : FileTest) (st : Status) : Bool :=
  match test with
  | .isThere | .mayRead => true
  | .isFile => st.kind = .file
  | .isDirectory => st.kind = .directory
  | .isDevice => st.kind = .device
  | .isPipe => st.kind = .pipe
  | .isSocket => false
  | .isLink => st.kind = .link
  | .isNotEmpty => 0 < st.size
  | .mayRun => st.kind = .directory || st.mode &&& 0o111 ≠ 0
  | .hasMode mask => st.mode &&& mask ≠ 0

def filesHold (order : FileOrder) (a? b? : Option Status) : Bool :=
  match order, a?, b? with
  | .newer, some a, some b => b.modified < a.modified
  | .older, some a, some b => a.modified < b.modified
  | .same, some a, some b => a.number = b.number
  | _, _, _ => false

/-- Whether a condition holds, or what is not a number in it; `read` reads numbers. -/
def holds (st : Style) (read : Octets → Option Int) : Condition → Proc (Except Octets Bool)
  | .constant value => pure (.ok value)
  | .isText text => pure (.ok (text ≠ ""))
  | .compare pass a b => pure (.ok (pass (compareOfLessAndEq a b)))
  | .numbers pass a b =>
    match read a, read b with
    | some m, some n => pure (.ok (pass (compareOfLessAndEq m n)))
    | none, _ => pure (.error (st.notNumber a))
    | _, none => pure (.error (st.notNumber b))
  | .terminal descriptor =>
    match read descriptor with
    | some _ => pure (.ok false)
    | none => pure (.error (st.notNumber descriptor))
  | .file test path => do
    match ← Proc.ask (.status path (test ≠ .isLink)) with
    | .ok s => return .ok (fileHolds test s)
    | .error _ => return .ok false
  | .files order a b => do
    let a := (← Proc.ask (.status a true)).toOption
    let b := (← Proc.ask (.status b true)).toOption
    return .ok (filesHold order a b)
  | .not c => do return (← c.holds st read).map (!·)
  | .and c d => do
    match ← c.holds st read with
    | .error e => return .error e
    | .ok first => return (← d.holds st read).map (first && ·)
  | .or c d => do
    match ← c.holds st read with
    | .error e => return .error e
    | .ok first => return (← d.holds st read).map (first || ·)

end Condition

end AssetWatch.Utility
