import AssetWatch.Shell.Syntax

/-!
# Arithmetic of the shell

Integers of 64 bits with the operators of C, assignments among them. An expression is read as
a whole and then computed; operands that do not count are not computed.
-/

namespace AssetWatch.Shell.Arithmetic

inductive BinaryOp
  | mul | div | mod | add | sub | shiftLeft | shiftRight
  | less | lessEq | greater | greaterEq | equal | notEqual | bitAnd | bitXor | bitOr
  deriving DecidableEq

inductive UnaryOp
  | plus | minus | not | complement
  deriving DecidableEq

inductive Expression
  | number (value : Int64)
  | variable (name : Octets)
  | unary (op : UnaryOp) (operand : Expression)
  | binary (op : BinaryOp) (left right : Expression)
  | both (left right : Expression)
  | either (left right : Expression)
  | choice (test first second : Expression)
  | assign (name : Octets) (op? : Option BinaryOp) (value : Expression)

/-! ## Numbers -/

def digitOf (c : Char) : Nat :=
  if c.isDigit then c.toNat - '0'.toNat
  else if 'a' ≤ c && c ≤ 'f' then c.toNat - 'a'.toNat + 10
  else if 'A' ≤ c && c ≤ 'F' then c.toNat - 'A'.toNat + 10
  else 99

/-- The digits of a base in front, as a number, and what is behind. -/
def digits (base : Nat) (cs : List Char) : Nat × List Char :=
  let (ds, rest) := cs.span fun c => digitOf c < base
  (ds.foldl (fun n c => n * base + digitOf c) 0, rest)

/-- A number in front that tells its base by what it begins with. -/
def numeral (cs : List Char) : Nat × List Char :=
  match cs with
  | '0' :: x :: d :: rest =>
    if (x = 'x' || x = 'X') && digitOf d < 16 then digits 16 (d :: rest) else digits 8 cs
  | '0' :: _ => digits 8 cs
  | _ => digits 10 cs

/-- The nearest number that 64 bits hold. -/
def clamp (n : Int) : Int64 :=
  if n < -9223372036854775808 then Int64.minValue
  else if 9223372036854775807 < n then Int64.maxValue
  else Int64.ofInt n

def isSpace (c : Char) : Bool := c = ' ' || ('\t' ≤ c && c ≤ '\r')

/-- A text as a number: blanks around it do not count, and nothing counts as zero. -/
def ofText? (anyBase : Bool) (s : Octets) : Option Int :=
  let cs := s.toList.dropWhile isSpace
  let (negative, cs) := match cs with
    | '-' :: rest => (true, rest)
    | '+' :: rest => (false, rest)
    | cs => (false, cs)
  let (n, rest) := if anyBase then numeral cs else digits 10 cs
  if (rest.dropWhile isSpace).isEmpty then some (if negative then -(n : Int) else n) else none

/-- A decimal number of 64 bits, with blanks around it. -/
def decimal? (s : Octets) : Option Int :=
  match s.toList.dropWhile isSpace with
  | [] => none
  | c :: rest =>
    let isSigned := (c = '-' || c = '+')
    if !(if isSigned then rest.head?.any Char.isDigit else c.isDigit) then none
    else (ofText? false s).bind fun n =>
      if -9223372036854775808 ≤ n && n ≤ 9223372036854775807 then some n else none

/-! ## Reading -/

inductive Token
  | number (value : Int64)
  | name (text : Octets)
  | op (op : BinaryOp)
  | assign (op? : Option BinaryOp)
  | bang | tilde | andAnd | orOr | question | colon | left | right
  /-- what no expression holds -/
  | unknown
  deriving DecidableEq

def operators : List (String × Token) := [
  ("<<=", .assign (some .shiftLeft)), (">>=", .assign (some .shiftRight)),
  ("<<", .op .shiftLeft), (">>", .op .shiftRight), ("<=", .op .lessEq), (">=", .op .greaterEq),
  ("==", .op .equal), ("!=", .op .notEqual), ("&&", .andAnd), ("||", .orOr),
  ("+=", .assign (some .add)), ("-=", .assign (some .sub)), ("*=", .assign (some .mul)),
  ("/=", .assign (some .div)), ("%=", .assign (some .mod)), ("&=", .assign (some .bitAnd)),
  ("|=", .assign (some .bitOr)), ("^=", .assign (some .bitXor)), ("=", .assign none),
  ("<", .op .less), (">", .op .greater), ("+", .op .add), ("-", .op .sub), ("*", .op .mul),
  ("/", .op .div), ("%", .op .mod), ("&", .op .bitAnd), ("|", .op .bitOr), ("^", .op .bitXor),
  ("!", .bang), ("~", .tilde), ("?", .question), (":", .colon), ("(", .left), (")", .right)]

/-- The tokens of an expression, up to the first that no expression holds. -/
def tokens : (fuel : Nat) → List Char → List Token
  | 0, _ => []
  | _, [] => []
  | fuel + 1, c :: rest =>
    if isSpace c then tokens fuel rest
    else if c.isDigit then
      let (n, rest) := numeral (c :: rest)
      .number (clamp n) :: tokens fuel rest
    else if isNameStart c then
      let (name, rest) := (c :: rest).span isNameChar
      .name (String.ofList name) :: tokens fuel rest
    else
      match operators.find? fun (text, _) => text.toList.isPrefixOf (c :: rest) with
      | some (text, token) => token :: tokens fuel ((c :: rest).drop text.length)
      | none => [.unknown]

/-- How tightly operators bind; the least number binds most tightly. -/
def level : BinaryOp → Nat
  | .mul | .div | .mod => 0
  | .add | .sub => 1
  | .shiftLeft | .shiftRight => 2
  | .less | .lessEq | .greater | .greaterEq => 3
  | .equal | .notEqual => 4
  | .bitAnd => 5
  | .bitXor => 6
  | .bitOr => 7

abbrev Parsed := Except String (Expression × List Token)

mutual

def assignment (fuel : Nat) (ts : List Token) : Parsed :=
  match fuel with
  | 0 => .error "expecting primary"
  | fuel + 1 =>
    match ts with
    | .name name :: .assign op? :: rest => do
      let (value, rest) ← assignment fuel rest
      return (.assign name op? value, rest)
    | ts => conditional fuel ts

def conditional (fuel : Nat) (ts : List Token) : Parsed :=
  match fuel with
  | 0 => .error "expecting primary"
  | fuel + 1 => do
    match ← disjunction fuel ts with
    | (test, .question :: rest) =>
      match ← assignment fuel rest with
      | (first, .colon :: rest) =>
        let (second, rest) ← conditional fuel rest
        return (.choice test first second, rest)
      | _ => throw "expecting ':'"
    | other => return other

def disjunction (fuel : Nat) (ts : List Token) : Parsed :=
  match fuel with
  | 0 => .error "expecting primary"
  | fuel + 1 => do
    match ← conjunction fuel ts with
    | (left, .orOr :: rest) =>
      let (right, rest) ← disjunction fuel rest
      return (.either left right, rest)
    | other => return other

def conjunction (fuel : Nat) (ts : List Token) : Parsed :=
  match fuel with
  | 0 => .error "expecting primary"
  | fuel + 1 => do
    match ← binary fuel 7 ts with
    | (left, .andAnd :: rest) =>
      let (right, rest) ← conjunction fuel rest
      return (.both left right, rest)
    | other => return other

/-- Operators up to a level. -/
def binary (fuel : Nat) (most : Nat) (ts : List Token) : Parsed :=
  match fuel with
  | 0 => .error "expecting primary"
  | fuel + 1 => do
    let (left, rest) ← primary fuel ts
    binaryRest fuel most left rest

def binaryRest (fuel : Nat) (most : Nat) (left : Expression) (ts : List Token) : Parsed :=
  match fuel with
  | 0 => .error "expecting primary"
  | fuel + 1 =>
    match ts with
    | .op op :: rest =>
      if most < level op then .ok (left, ts)
      else do
        let (right, rest) ←
          if level op = 0 then primary fuel rest else binary fuel (level op - 1) rest
        binaryRest fuel most (.binary op left right) rest
    | ts => .ok (left, ts)

def primary (fuel : Nat) (ts : List Token) : Parsed :=
  match fuel with
  | 0 => .error "expecting primary"
  | fuel + 1 =>
    let unary (op : UnaryOp) (rest : List Token) : Parsed := do
      let (operand, rest) ← primary fuel rest
      return (.unary op operand, rest)
    match ts with
    | .number value :: rest => .ok (.number value, rest)
    | .name name :: rest => .ok (.variable name, rest)
    | .left :: rest => do
      match ← assignment fuel rest with
      | (inner, .right :: rest) => return (inner, rest)
      | _ => throw "expecting ')'"
    | .op .add :: rest => unary .plus rest
    | .op .sub :: rest => unary .minus rest
    | .bang :: rest => unary .not rest
    | .tilde :: rest => unary .complement rest
    | _ => .error "expecting primary"

end

/-- Reads an expression. -/
def parse (text : Octets) : Except String Expression := do
  let ts := tokens (text.length + 1) text.toList
  match ← assignment (16 * ts.length + 16) ts with
  | (e, []) => return e
  | _ => throw "expecting EOF"

/-! ## Computing -/

/-- Why there is no value. -/
inductive Failure
  | divisionByZero
  | notNumber (text : Octets)

def truth (b : Bool) : Int64 := if b then 1 else 0

def apply (op : BinaryOp) (a b : Int64) : Except Failure Int64 :=
  match op with
  | .mul => .ok (a * b)
  | .div => if b = 0 then .error .divisionByZero else .ok (a / b)
  | .mod => if b = 0 then .error .divisionByZero else .ok (a % b)
  | .add => .ok (a + b)
  | .sub => .ok (a - b)
  | .shiftLeft => .ok (a <<< b)
  | .shiftRight => .ok (a >>> b)
  | .less => .ok (truth (a < b))
  | .lessEq => .ok (truth (a ≤ b))
  | .greater => .ok (truth (b < a))
  | .greaterEq => .ok (truth (b ≤ a))
  | .equal => .ok (truth (a == b))
  | .notEqual => .ok (truth (a != b))
  | .bitAnd => .ok (a &&& b)
  | .bitXor => .ok (a ^^^ b)
  | .bitOr => .ok (a ||| b)

/-- The values that an expression assigns, the last in front. -/
abbrev Assigned := List (Octets × Int64)

abbrev Computing := StateT Assigned (Except Failure)

/-- The value of a variable, which may just have been assigned. -/
def valueOf (look : Octets → Octets) (name : Octets) : Computing Int64 := do
  match (← get).lookup name with
  | some value => return value
  | none =>
    let text := look name
    match ofText? true text with
    | some n => return clamp n
    | none => throw (.notNumber text)

def compute (look : Octets → Octets) : Expression → Computing Int64
  | .number value => return value
  | .variable name => valueOf look name
  | .unary op e => do
    let a ← compute look e
    return match op with
      | .plus => a
      | .minus => -a
      | .not => truth (a == 0)
      | .complement => ~~~a
  | .binary op left right => do
    let a ← compute look left
    let b ← compute look right
    apply op a b
  | .both left right => do
    let a ← compute look left
    if a == 0 then return 0
    return truth ((← compute look right) != 0)
  | .either left right => do
    let a ← compute look left
    if a != 0 then return 1
    return truth ((← compute look right) != 0)
  | .choice test first second => do
    if (← compute look test) != 0 then compute look first else compute look second
  | .assign name op? e => do
    let b ← compute look e
    let value ← match op? with
      | some op => do
        let a ← valueOf look name
        apply op a b
      | none => pure b
    modify ((name, value) :: ·)
    return value

end AssetWatch.Shell.Arithmetic
