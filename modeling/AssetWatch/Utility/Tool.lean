import AssetWatch.Host.Call

/-!
# Utilities

A utility is an action of a process that collects what it writes, keeps the status with which
it will end, and may end early. What is collected is written before anything is told on the
stream for errors. Options may stand between operands, and long ones may be cut short as long
as they stay clear.
-/

namespace AssetWatch.Utility

open Host (Access Call Fault Proc Program Status)

/-- What a utility keeps while it runs. -/
structure Ledger where
  /-- the name by which it was called -/
  name : Octets
  /-- what has not been written yet -/
  output : Octets := ""
  status : Nat := 0
  bindings : List (Octets × Octets) := []

/-- An action of a utility; its exception is a status with which it ends. -/
abbrev Tool := ExceptT Nat (StateT Ledger Proc)

instance {α : Type} : Inhabited (Tool α) := ⟨throw 1⟩

namespace Tool

/-- More rounds than any loop takes. -/
def endless : Nat := 1000000000

def lift {α : Type} (m : Proc α) : Tool α :=
  ExceptT.lift (fun s : Ledger => do
    let a ← m
    return (a, s))

def ask (c : Call) : Tool c.Reply := lift (Proc.ask c)

/-! ## Writing -/

/-- Writes what was collected. -/
def flush : Tool Unit := do
  let s ← get
  if s.output ≠ "" then
    set { s with output := "" }
    match ← ask (.write 1 (Octets.bytes s.output)) with
    | .ok _ => pure ()
    | .error fault =>
      let _ ← ask (.write 2 (Octets.bytes s!"{s.name}: write error: {fault.text}\n"))
      throw 1

/-- Collects what is to be written. -/
def print (text : Octets) : Tool Unit := do
  modify fun s => { s with output := s.output ++ text }
  if 16384 ≤ (← get).output.utf8ByteSize then flush

def printLine (text : Octets) : Tool Unit := print (text.push '\n')

/-- Writes to the stream for errors as it is. -/
def tell (text : Octets) : Tool Unit := do
  flush
  let _ ← ask (.write 2 text.bytes)

/-- Tells of something that went wrong. -/
def warn (text : Octets) : Tool Unit := do
  let name := (← get).name
  tell s!"{name}: {text}\n"

def setStatus (status : Nat) : Tool Unit := modify fun s => { s with status }

/-- Tells of something because of which the utility will fail. -/
def complain (text : Octets) (status : Nat := 1) : Tool Unit := do
  warn text
  setStatus status

/-- Tells of something and ends. -/
def fail {α : Type} (text : Octets) (status : Nat := 1) : Tool α := do
  warn text
  throw status

/-- Points to the help, and ends. -/
def misuse {α : Type} (text : Octets) (status : Nat := 1) : Tool α := do
  warn text
  let name := (← get).name
  tell s!"Try '{name} --help' for more information.\n"
  throw status

/-! ## Reading -/

/-- Reads until there is nothing more or the wish, which each stretch makes smaller, is zero;
the last stretch is in front. -/
def readRest (descriptor : Nat) (lessen : Octets → Nat → Nat) : (fuel : Nat) → (wish : Nat) →
    List Octets → Tool (Except Fault (List Octets))
  | 0, _, taken => pure (.ok taken)
  | fuel + 1, wish, taken => do
    match ← ask (.read descriptor 65536) with
    | .ok bytes =>
      if bytes.isEmpty then return .ok taken
      let stretch := Octets.ofBytes bytes
      let left := lessen stretch wish
      if left = 0 then return .ok (stretch :: taken)
      readRest descriptor lessen fuel left (stretch :: taken)
    | .error fault => return .error fault

def readAll (descriptor : Nat) : Tool (Except Fault Octets) := do
  let taken ← readRest descriptor (fun _ wish => wish) endless 1 []
  return taken.map fun taken => String.join taken.reverse

/-- Reads until so much is there, as `measure` counts it. -/
def readEnough (descriptor : Nat) (measure : Octets → Nat) (wish : Nat) :
    Tool (Except Fault Octets) := do
  if wish = 0 then return .ok ""
  let taken ← readRest descriptor (fun stretch wish => wish - measure stretch) endless wish []
  return taken.map fun taken => String.join taken.reverse

/-- Reads a file, or the input for a dash. -/
def readFile (path : Octets) : Tool (Except Fault Octets) := do
  if path = "-" then readAll 0
  else
    match ← ask (.openFile path Access.reading) with
    | .error fault => return .error fault
    | .ok descriptor =>
      let found ← readAll descriptor
      let _ ← ask (.close descriptor)
      return found

/-- Replaces the content of a file. -/
def writeFile (path content : Octets) (access : Access := Access.writing) :
    Tool (Except Fault Unit) := do
  match ← ask (.openFile path access) with
  | .error fault => return .error fault
  | .ok descriptor =>
    let written ← if content = "" then pure (.ok ()) else ask (.write descriptor content.bytes)
    let _ ← ask (.close descriptor)
    return written

def statusOf? (path : Octets) (follow : Bool) : Tool (Option Status) := do
  return (← ask (.status path follow)).toOption

def isDirectory (path : Octets) : Tool Bool := do
  return match ← statusOf? path true with
    | some st => st.kind = .directory
    | none => false

/-! ## Running -/

/-- Runs a utility as a program. -/
def program (m : List Octets → Tool Unit) : Program := fun args bindings => do
  let whole : Tool Unit := do
    m (args.drop 1)
    flush
  let ended : Tool Unit := do
    try whole
    catch status =>
      flush
      setStatus status
  let (_, s) ← (ExceptT.run ended).run { name := args.headD "", bindings }
  return s.status

end Tool

/-! ## Options -/

inductive Argument
  | none
  | required
  | optional
  deriving DecidableEq

/-- The options of a utility. -/
structure Options where
  /-- letters, with a colon behind those that take a value, and two if they may -/
  letters : String := ""
  /-- long names, with the letters that they stand for -/
  long : List (String × Char) := []
  /-- long options without letters -/
  words : List (String × Argument) := []
  /-- operands end the options -/
  inFront : Bool := false
  /-- the status of a mistake -/
  misused : Nat := 1

/-- An option that was given: its letter or long name, and its value. -/
structure Given where
  name : String
  value : Octets := ""
  hasValue : Bool := false

namespace Options

def argumentOf (letters : List Char) (c : Char) : Option Argument :=
  match letters with
  | [] => none
  | l :: rest =>
    if l = c && c ≠ ':' then
      some (match rest with
        | ':' :: ':' :: _ => .optional
        | ':' :: _ => .required
        | _ => .none)
    else argumentOf rest c

/-- The options that letters of a word stand for, and the words that are left. -/
def readLetters (o : Options) : List Char → List Octets → Tool (List Given × List Octets)
  | [], rest => pure ([], rest)
  | c :: more, rest => do
    match argumentOf o.letters.toList c with
    | none => Tool.misuse s!"invalid option -- '{c}'" o.misused
    | some .none =>
      let (found, rest) ← readLetters o more rest
      return ({ name := c.toString } :: found, rest)
    | some .optional =>
      let value := String.ofList more
      return ([{ name := c.toString, value, hasValue := !more.isEmpty }], rest)
    | some .required =>
      match more, rest with
      | [], [] => Tool.misuse s!"option requires an argument -- '{c}'" o.misused
      | [], value :: rest => return ([{ name := c.toString, value, hasValue := true }], rest)
      | more, rest =>
        return ([{ name := c.toString, value := String.ofList more, hasValue := true }], rest)

/-- All long names with what they mean. -/
def longNames (o : Options) : List (String × String × Argument) :=
  o.long.map (fun (name, c) =>
    (name, c.toString, (argumentOf o.letters.toList c).getD .none)) ++
  o.words.map (fun (name, argument) => (name, name, argument)) ++
  [("help", "help", .none), ("version", "version", .none)]

/-- A long option. -/
def readLong (o : Options) (word : Octets) (rest : List Octets) :
    Tool (Given × List Octets) := do
  let (name, behind) := word.toList.span (· ≠ '=')
  let name := String.ofList name
  let value? := if behind.isEmpty then none else some (String.ofList (behind.drop 1))
  let all := o.longNames
  let close := all.filter fun (long, _) => long.startsWith name
  let chosen ← match all.find? (·.1 == name), close with
    | some found, _ => pure found
    | none, [] => Tool.misuse s!"unrecognized option '--{name}'" o.misused
    | none, first :: others =>
      if others.all fun other => other.2.1 = first.2.1 then pure first
      else
        let names := String.join (close.map fun (long, _) => s!" '--{long}'")
        Tool.misuse s!"option '--{name}' is ambiguous; possibilities:{names}" o.misused
  let (long, meaning, argument) := chosen
  match argument, value?, rest with
  | .none, some _, _ => Tool.misuse s!"option '--{long}' doesn't allow an argument" o.misused
  | .none, none, rest => return ({ name := meaning }, rest)
  | _, some value, rest => return ({ name := meaning, value, hasValue := true }, rest)
  | .optional, none, rest => return ({ name := meaning }, rest)
  | .required, none, value :: rest =>
    return ({ name := meaning, value, hasValue := true }, rest)
  | .required, none, [] => Tool.misuse s!"option '--{long}' requires an argument" o.misused

def readWords (o : Options) : (fuel : Nat) → List Octets → List Given → List Octets →
    Tool (List Given × List Octets)
  | 0, _, found, operands => pure (found, operands)
  | fuel + 1, words, found, operands =>
    match words with
    | [] => pure (found, operands)
    | word :: rest => do
      if word = "--" then return (found, operands ++ rest)
      else if word.startsWith "--" then
        let (one, rest) ← o.readLong (word.drop 2).toString rest
        readWords o fuel rest (found ++ [one]) operands
      else if word.startsWith "-" && word ≠ "-" then
        let (several, rest) ← o.readLetters (word.toList.drop 1) rest
        readWords o fuel rest (found ++ several) operands
      else if o.inFront then return (found, operands ++ word :: rest)
      else readWords o fuel rest found (operands ++ [word])

/-- The options and operands among words. Help is an end of its own. -/
def read (o : Options) (words : List Octets) : Tool (List Given × List Octets) := do
  let (found, operands) ← o.readWords (words.length + 1) words [] []
  if found.any fun g => g.name = "help" || g.name = "version" then throw 0
  return (found, operands)

end Options

namespace Given

def has (found : List Given) (name : String) : Bool := found.any (·.name == name)

/-- The value of the last option of a name. -/
def value? (found : List Given) (name : String) : Option Octets :=
  (found.reverse.find? (·.name == name)).map (·.value)

/-- The last of some options that was given. -/
def last? (found : List Given) (names : List String) : Option Given :=
  found.reverse.find? fun g => names.contains g.name

end Given

/-! ## Wording -/

namespace Quoted

def isPlain (c : Char) : Bool := ' ' ≤ c && c.toNat < 127

/-- An escape for a character that is not shown as it is. -/
def escape (c : Char) : String :=
  match c with
  | '\n' => "\\n"
  | '\t' => "\\t"
  | '\r' => "\\r"
  | '\x07' => "\\a"
  | '\x08' => "\\b"
  | '\x0b' => "\\v"
  | '\x0c' => "\\f"
  | c =>
    let digits := String.ofList (Nat.toDigits 8 c.toNat)
    "\\" ++ String.ofList (List.replicate (3 - digits.length) '0') ++ digits

/-- Stretches of plain characters and of others. -/
def stretches : (fuel : Nat) → List Char → List String
  | 0, _ => []
  | _, [] => []
  | fuel + 1, c :: rest =>
    let (run, rest) := (c :: rest).span fun d => isPlain d = isPlain c
    let text := if isPlain c then "'" ++ String.ofList run ++ "'"
      else "$'" ++ String.join (run.map escape) ++ "'"
    text :: stretches fuel rest

/-- Characters that a shell takes in a special way. -/
def isSpecialAt (first : Bool) (c : Char) : Bool :=
  "!\"$&()*;<=>[^|`? \\\x27".toList.contains c || (first && (c = '#' || c = '~'))

end Quoted

open Quoted in
/-- A name in quotes, so that a shell would read it back. -/
def quoteName (text : Octets) : Octets :=
  let cs := text.toList
  if !cs.all isPlain then
    let front := if (cs.head?.map isPlain).getD true then "" else "''"
    front ++ String.join (stretches (cs.length + 1) cs)
  else if cs.contains '\x27' then
    if cs.any fun c => "\"`$\\".toList.contains c then
      "'" ++ String.intercalate "'\\''" (text.splitOn "'") ++ "'"
    else "\"" ++ text ++ "\""
  else "'" ++ text ++ "'"

open Quoted in
/-- A name, in quotes only if a shell would need them. -/
def showName (text : Octets) : Octets :=
  match text.toList with
  | [] => "''"
  | c :: rest =>
    if isPlain c && !isSpecialAt true c && rest.all fun d => isPlain d && !isSpecialAt false d then
      text
    else quoteName text

open Quoted in
/-- A text in quotes, with escapes in it. -/
def quoteText (text : Octets) : Octets :=
  "'" ++ String.join (text.toList.map fun c =>
    if c = '\x27' then "\\'" else if c = '\\' then "\\\\"
    else if isPlain c then c.toString else escape c) ++ "'"

end AssetWatch.Utility
