import AssetWatch.Utility.Condition
import AssetWatch.Utility.Format
import AssetWatch.Utility.Input
import AssetWatch.Utility.Regex

/-!
# Values and texts

Utilities that write their operands, compare them, and calculate with them.
-/

namespace AssetWatch.Utility

/-! ## Writing operands -/

def succeed (words : List Octets) : Tool Unit :=
  if words = ["--help"] || words = ["--version"] then throw 0 else pure ()

def decline (_ : List Octets) : Tool Unit := throw 1

/-- The options of `echo` in front, which are letters only, and the words behind them. -/
def echoOptions : List Octets → List Char × List Octets
  | [] => ([], [])
  | word :: rest =>
    match word.toList with
    | '-' :: c :: more =>
      if (c :: more).all fun d => "neE".toList.contains d then
        let (letters, words) := echoOptions rest
        (c :: more ++ letters, words)
      else ([], word :: rest)
    | _ => ([], word :: rest)

def echo (words : List Octets) : Tool Unit := do
  if words = ["--help"] || words = ["--version"] then throw 0
  let (letters, words) := echoOptions words
  let line := !letters.contains 'n'
  let escapes := (letters.reverse.find? (· ≠ 'n')) == some 'e'
  let text := String.intercalate " " words
  if escapes then
    let (text, stops) := richEscapes.replaceIn text
    Tool.print (if stops || !line then text else text.push '\n')
  else Tool.print (if line then text.push '\n' else text)

def printf (words : List Octets) : Tool Unit := do
  if words = ["--help"] || words = ["--version"] then throw 0
  let words := if words.head? == some "--" then words.drop 1 else words
  match words with
  | [] => Tool.misuse "missing operand"
  | template :: operands =>
    let style := { Format.richStyle with quoted? := some showName }
    let made := Format.format style template operands
    Tool.print made.output
    for text in made.errors do
      Tool.warn text
    let isIdle := made.operands.length = operands.length && !operands.isEmpty && !made.stopped
    match operands, isIdle with
    | first :: _, true =>
      Tool.warn s!"warning: ignoring excess arguments, starting with {quoteText first}"
    | _, _ => pure ()
    if made.failed then Tool.setStatus 1

/-- Writes a line as long as someone reads. -/
def repeatLine (line : Octets) : (fuel : Nat) → Tool Unit
  | 0 => pure ()
  | fuel + 1 => do
    Tool.print line
    Tool.flush
    repeatLine line fuel

def yes (words : List Octets) : Tool Unit := do
  let words := if words.head? == some "--" then words.drop 1 else words
  let line := (String.intercalate " " (if words.isEmpty then ["y"] else words)).push '\n'
  repeatLine (String.join (List.replicate (8192 / line.length + 1) line)) Tool.endless

/-! ## Conditions -/

def conditionStyle : Condition.Style := {
  more := [("==", fun a b => .compare (fun o => o == .eq) a b)]
  unexpected := fun _ s => s!"extra argument {quoteText s}"
  missing := fun s => s!"missing argument after {quoteText s}"
  unclosed := "')' expected"
  notNumber := fun s => s!"invalid integer {quoteText s}" }

/-- What is wrong with a condition of two or three words. -/
def conditionFault? (words : List Octets) : Option Octets :=
  let isUnary (word : Octets) : Bool := Condition.unary.any (·.1 == word)
  let isBinary (word : Octets) : Bool :=
    Condition.binary.any (·.1 == word) || word = "==" || word = "-a" || word = "-o"
  match words with
  | [first, second] =>
    if first = "!" || isUnary first then none
    else if first.startsWith "-" && first.length = 2 then
      some s!"{quoteText first}: unary operator expected"
    else some s!"missing argument after {quoteText second}"
  | [first, second, third] =>
    if isBinary second then none
    else if first = "!" then
      if isUnary second || second = "!" then none else some s!"missing argument after {quoteText third}"
    else if first = "(" && third = ")" then none
    else some s!"{quoteText second}: binary operator expected"
  | _ => none

def test (words : List Octets) : Tool Unit := do
  let words ←
    if lastName (← get).name = "[" then
      if words = ["--help"] || words = ["--version"] then throw 0
      if words.getLast? == some "]" then pure words.dropLast
      else Tool.fail "missing ']'" 2
    else pure words
  let words := words
  match conditionFault? words with
  | some text => Tool.fail text 2
  | none =>
    match Condition.parse conditionStyle words with
    | .error text => Tool.fail text 2
    | .ok c =>
      let read (s : Octets) : Option Int :=
        let inner := String.ofList ((s.toList.dropWhile (· = ' ')).reverse.dropWhile (· = ' ')).reverse
        integer? inner
      match ← Tool.lift (c.holds conditionStyle read) with
      | .error text => Tool.fail text 2
      | .ok holds => if holds then pure () else throw 1
where
  lastName (path : Octets) : Octets := (path.splitOn "/").getLastD path

/-! ## Sequences -/

/-- A number with decimals: its digits, and how many of them are decimals. -/
structure Decimal where
  digits : Int
  places : Nat

namespace Decimal

def parse? (text : Octets) : Option Decimal :=
  let (negative, rest) := match text.toList with
    | '-' :: rest => (true, rest)
    | '+' :: rest => (false, rest)
    | rest => (false, rest)
  let (mantissa, tail) := rest.span fun c => c ≠ 'e' && c ≠ 'E'
  let exponent? : Option Int := if tail.isEmpty then some 0 else integer? (String.ofList (tail.drop 1))
  let (whole, decimals) := mantissa.span (· ≠ '.')
  let decimals := decimals.drop 1
  if !(whole ++ decimals).all Char.isDigit || (whole ++ decimals).isEmpty then none
  else exponent?.bind fun e =>
    let n : Int := Format.numberOf 10 (whole ++ decimals)
    let n := if negative then -n else n
    let places : Int := decimals.length - e
    if places < 0 then some ⟨n * 10 ^ places.natAbs, 0⟩ else some ⟨n, places.toNat⟩

/-- The digits, as if there were so many decimals. -/
def scaled (d : Decimal) (places : Nat) : Int := d.digits * 10 ^ (places - d.places)

def text (d : Decimal) : Octets :=
  let digits := toString d.digits.natAbs
  let sign := if d.digits < 0 then "-" else ""
  if d.places = 0 then sign ++ digits
  else
    let digits := replicate (d.places + 1 - digits.length) '0' ++ digits
    sign ++ (digits.dropEnd d.places).toString ++ "." ++ (digits.drop (digits.length - d.places)).toString

end Decimal

/-- Words in which negative numbers are no options. -/
def protectNumbers (words : List Octets) : List Octets :=
  let isNumber (word : Octets) : Bool :=
    word.startsWith "-" && ((word.toList.drop 1).head?.map fun c => c.isDigit || c = '.').getD false
  match words.findIdx? fun w => isNumber w || !w.startsWith "-" || w = "-" || w = "--" with
  | some i =>
    match words[i]?.map isNumber with
    | some true => words.take i ++ "--" :: words.drop i
    | _ => words
  | none => words

/-- Writes numbers from one to another. -/
def count (textOf : Int → Octets) (separator : Octets) (step last : Int) : (fuel : Nat) → Int →
    (isFirst : Bool) → Tool Unit
  | 0, _, _ => pure ()
  | fuel + 1, n, isFirst => do
    if (0 < step && last < n) || (step < 0 && n < last) then
      if !isFirst then Tool.print "\n"
    else
      Tool.print (if isFirst then textOf n else separator ++ textOf n)
      count textOf separator step last fuel (n + step) false

def seq (words : List Octets) : Tool Unit := do
  let (found, operands) ← Options.read {
    letters := "f:s:w"
    long := [("format", 'f'), ("separator", 's'), ("equal-width", 'w')]
    inFront := true } (protectNumbers words)
  let read (text : Octets) : Tool Decimal :=
    match Decimal.parse? text with
    | some d => pure d
    | none => Tool.misuse s!"invalid floating point argument: {quoteText text}"
  let (first, step, last) ← match operands with
    | [] => Tool.misuse "missing operand"
    | [last] => pure (⟨1, 0⟩, ⟨1, 0⟩, ← read last)
    | [first, last] => pure (← read first, ⟨1, 0⟩, ← read last)
    | [first, step, last] => pure (← read first, ← read step, ← read last)
    | _ :: _ :: _ :: extra :: _ => Tool.misuse s!"extra operand {quoteName extra}"
  if step.digits = 0 then
    let shown := quoteText (operands.getD 1 "")
    Tool.misuse s!"invalid Zero increment value: {shown}"
  let shown := max first.places step.places
  let places := max shown last.places
  let text (n : Int) : Octets :=
    (⟨n / 10 ^ (places - shown), shown⟩ : Decimal).text
  let bound := last.scaled places
  let width := max (text (first.scaled places)).length (text (bound / 10 ^ (places - shown) * 10 ^ (places - shown))).length
  let textOf (n : Int) : Octets :=
    match Given.value? found "f" with
    | some template => (Format.format Format.richStyle template [(⟨n, places⟩ : Decimal).text]).output
    | none =>
      if Given.has found "w" then
        let s := text n
        if n < 0 then "-" ++ replicate (width - s.length) '0' ++ (s.drop 1).toString
        else replicate (width - s.length) '0' ++ s
      else text n
  count textOf ((Given.value? found "s").getD "\n") (step.scaled places) bound Tool.endless
    (first.scaled places) true

/-! ## Expressions -/

/-- What an expression comes to; the words that are left come with it. -/
abbrev Calculation := StateT (List Octets) Tool

namespace Calculation

def fail {α : Type} (text : Octets) (status : Nat := 2) : Calculation α :=
  StateT.lift (Tool.fail text status)

def isNull (s : Octets) : Bool := s = "" || integer? s == some 0

def number (s : Octets) : Calculation Int :=
  match integer? s with
  | some n => if s.startsWith "+" then fail "non-integer argument" else pure n
  | none => fail "non-integer argument"

/-- Goes on if a word stands in front. -/
def next? (words : List Octets) : Calculation (Option Octets) := do
  match ← get with
  | word :: rest =>
    if words.contains word then
      set rest
      return some word
    else return none
  | [] => return none

def compare (a b : Octets) : Ordering :=
  match integer? a, integer? b with
  | some m, some n => compareOfLessAndEq m n
  | _, _ => compareOfLessAndEq a b

def truth (b : Bool) : Octets := if b then "1" else "0"

/-- The part of a text that an expression matches from the front, or its length. -/
def matched (text pattern : Octets) : Calculation Octets :=
  match Regex.parse .basic pattern with
  | .error reason => fail reason
  | .ok (e, groups) =>
    let subject : Regex.Subject := { chars := text.toList.toArray }
    match e.matchAt subject 0 with
    | none => pure (if groups = 0 then "0" else "")
    | some m =>
      if groups = 0 then pure (toString m.last)
      else
        match m.groups.find? (·.1 == 1) with
        | some (_, first, last) => pure (String.ofList ((text.toList.take last).drop first))
        | none => pure ""

mutual

/-- Reads operators of a level and below; lower levels bind more. -/
def level (before : Octets) : (fuel : Nat) → (n : Nat) → Calculation Octets
  | 0, _ => fail "syntax error"
  | fuel + 1, 6 => atom before fuel
  | fuel + 1, n => do
    let a ← level before fuel (n + 1)
    more fuel n a

/-- Further operands on a level. -/
def more : (fuel : Nat) → (n : Nat) → Octets → Calculation Octets
  | 0, _, _ => fail "syntax error"
  | fuel + 1, n, a => do
    let operators := match n with
      | 0 => ["|"]
      | 1 => ["&"]
      | 2 => ["<", "<=", "=", "==", "!=", ">=", ">"]
      | 3 => ["+", "-"]
      | 4 => ["*", "/", "%"]
      | _ => [":"]
    match ← next? operators with
    | none => return a
    | some op =>
      let b ← level op fuel (n + 1)
      let c ← combine op a b
      more fuel n c

def combine (op a b : Octets) : Calculation Octets := do
  match op with
  | "|" => return if !isNull a then a else if !isNull b then b else "0"
  | "&" => return if isNull a || isNull b then "0" else a
  | "<" => return truth (compare a b == .lt)
  | "<=" => return truth (compare a b != .gt)
  | "=" | "==" => return truth (compare a b == .eq)
  | "!=" => return truth (compare a b != .eq)
  | ">=" => return truth (compare a b != .lt)
  | ">" => return truth (compare a b == .gt)
  | ":" => matched a b
  | op =>
    let m ← number a
    let n ← number b
    match op with
    | "+" => return toString (m + n)
    | "-" => return toString (m - n)
    | "*" => return toString (m * n)
    | op =>
      if n = 0 then fail "division by zero"
      return toString (if op = "/" then Int.tdiv m n else Int.tmod m n)

/-- One operand. -/
def atom (before : Octets) : (fuel : Nat) → Calculation Octets
  | 0 => fail "syntax error"
  | fuel + 1 => do
    let operand (name : Octets) : Calculation Octets := level name fuel 6
    match ← get with
    | [] => fail s!"syntax error: missing argument after {quoteText before}"
    | word :: rest =>
      set rest
      match word with
      | "(" =>
        let a ← level "(" fuel 0
        match ← get with
        | ")" :: rest =>
          set rest
          return a
        | other :: _ => fail s!"syntax error: expecting ')' instead of {quoteText other}"
        | [] => fail s!"syntax error: expecting ')' after {quoteText a}"
      | ")" => fail "syntax error: unexpected ')'"
      | "+" =>
        match rest with
        | [] => fail "syntax error: missing argument after '+'"
        | literal :: rest =>
          set rest
          return literal
      | "length" =>
        let a ← operand "length"
        return toString a.length
      | "match" =>
        let a ← operand "match"
        let b ← operand a
        matched a b
      | "index" =>
        let a ← operand "index"
        let b ← operand a
        let found := a.toList.findIdx? fun c => b.toList.contains c
        return toString ((found.map (· + 1)).getD 0)
      | "substr" =>
        let a ← operand "substr"
        let i ← operand a
        let n ← operand i
        match integer? i, integer? n with
        | some i, some n =>
          if i ≤ 0 || n ≤ 0 then return ""
          return String.ofList ((a.toList.drop (i.toNat - 1)).take n.toNat)
        | _, _ => return ""
      | word => return word

end

end Calculation

def expr (words : List Octets) : Tool Unit := do
  if words = ["--help"] || words = ["--version"] then throw 0
  let words := if words.head? == some "--" then words.drop 1 else words
  if words.isEmpty then Tool.misuse "missing operand" 2
  let (answer, rest) ← (Calculation.level "" (16 * words.length + 32) 0).run words
  match rest with
  | extra :: _ => Tool.fail s!"syntax error: unexpected argument {quoteText extra}" 2
  | [] =>
    Tool.printLine answer
    if Calculation.isNull answer then Tool.setStatus 1

end AssetWatch.Utility
