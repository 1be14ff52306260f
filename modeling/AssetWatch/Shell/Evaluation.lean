import AssetWatch.Shell.Builtin.Control
import AssetWatch.Shell.Builtin.Directory
import AssetWatch.Shell.Builtin.Names
import AssetWatch.Shell.Builtin.Output
import AssetWatch.Shell.Builtin.Processes
import AssetWatch.Shell.Builtin.Variables

/-!
# Carrying out commands

A command gives a status. A failure that nothing looks at ends the shell if it is told so. The
words of a simple command are replaced first, then its redirections are done, then its
assignments, and then what its first word names runs: a function, a builtin or a program.
-/

namespace AssetWatch.Shell

open Host (Fault)

/-! ## Builtins -/

def otherBuiltins : List Builtin :=
  Builtin.output ++ Builtin.control ++ Builtin.forVariables ++ Builtin.processes ++ Builtin.directory

/-- Whether a name is that of a builtin, and whether of a special one. -/
def isSpecialBuiltin? (name : Octets) : Option Bool :=
  match otherBuiltins.find? (·.name == name) with
  | some b => some b.isSpecial
  | none => if ["alias", "unalias", "type", "command", "hash"].contains name then some false
    else none

def allBuiltins : List Builtin := otherBuiltins ++ Builtin.names isSpecialBuiltin?

def builtin? (name : Octets) : Option Builtin := allBuiltins.find? (·.name == name)

/-! ## Simple commands -/

/-- What the first word of a command names. -/
inductive Target
  | nothing
  | function (f : Function)
  | builtin (b : Builtin)
  | program

def targetOf (withFunctions : Bool) (name : Octets) : Sh Target := do
  let s ← get
  match if withFunctions then s.functions.find? (·.name == name) else none with
  | some f => return .function f
  | none => return match builtin? name with
    | some b => .builtin b
    | none => .program

/-- The words of a simple command so far, and how they are taken. -/
structure Line where
  fields : List Octets
  /-- words that have not been replaced -/
  words : List Word
  target : Target
  withFunctions : Bool := true
  /-- programs are looked for in the standard directories -/
  isStandard : Bool := false
  /-- the first builtin that was named is special -/
  isSpecial : Bool := false

/-- Replaces words until there is a field. -/
def someFields (x : Substitute) : List Word → Sh (List Octets × List Word)
  | [] => pure ([], [])
  | w :: rest => do
    match ← expandFields x w with
    | [] => someFields x rest
    | fields => return (fields, rest)

/-- Drops `command` and its options in front; none if it is to tell what a name means. -/
def stripOptions (x : Substitute) (isStandard : Bool) : (fuel : Nat) → List Octets → List Word →
    Sh (Option (Bool × List Octets × List Word))
  | 0, _, _ => pure none
  | fuel + 1, fields, words => do
    let (fields, words) ← if fields.isEmpty then someFields x words else pure (fields, words)
    match fields with
    | [] => return none
    | field :: rest =>
      match field.toList with
      | ['-', '-'] =>
        let (rest, words) ← if rest.isEmpty then someFields x words else pure (rest, words)
        return if rest.isEmpty then none else some (isStandard, rest, words)
      | '-' :: c :: more =>
        if (c :: more).all (· = 'p') then stripOptions x true fuel rest words else return none
      | _ => return some (isStandard, fields, words)

/-- Finds what a command runs; of `command` only the words behind it count. -/
def resolve (x : Substitute) : (fuel : Nat) → (first : Bool) → Line → Sh Line
  | 0, _, line => pure line
  | fuel + 1, first, line => do
    let target ← targetOf line.withFunctions (line.fields.headD "")
    let line := { line with target }
    match target with
    | .builtin b =>
      let line := if first then { line with isSpecial := b.isSpecial } else line
      if b.name ≠ "command" then return line
      match ← stripOptions x line.isStandard Reader.enough (line.fields.drop 1) line.words with
      | some (isStandard, fields, words) =>
        resolve x fuel false { line with fields, words, isStandard, withFunctions := false }
      | none => return line
    | _ => return line

/-- Replaces an assignment, with home directories behind its sign. -/
def assignmentField (x : Substitute) (w : Word) : Sh (List Octets) := do
  match Reader.assignment? w with
  | some (name, value) =>
    let text ← expandText x value { assigns := true }
    return [s!"{name}={text}"]
  | none => expandFields x w

def expandRest (x : Substitute) (line : Line) : Sh (List Octets) := do
  let assigns := match line.target with
    | .builtin b => b.assigns
    | _ => false
  let mut fields : Array (List Octets) := #[line.fields]
  for w in line.words do
    fields := fields.push (← if assigns then assignmentField x w else expandFields x w)
  return fields.toList.flatten

/-- Shows a command before it is carried out. -/
def trace (assignments : List (Octets × Octets)) (fields : List Octets) : Sh Unit := do
  let s ← get
  if s.has 'x' then
    let sign := (s.get? "PS4").getD ""
    let words := assignments.map (fun (name, value) => s!"{name}={value}") ++ fields
    let _ ← Sh.write 2 (sign ++ String.intercalate " " words ++ "\n")

/-- Runs a builtin; a mistake in one that is not special only gives a status. -/
def runBuiltin (e : Engine) (isSpecial : Bool) (b : Builtin) (fields : List Octets) : Sh Nat := do
  let before := (← get).builtin?
  modify fun s => { s with builtin? := some (fields.headD "") }
  let result ← Sh.attempt (b.run e fields)
  modify fun s => { s with builtin? := before }
  match result with
  | .ok status => return status
  | .error (.error status) =>
    if isSpecial then throw (.error status) else return status
  | .error stop => throw stop

/-- Calls a function with parameters of its own. -/
def call (e : Engine) (flags : Flags) (f : Function) (args : List Octets) : Sh Nat := do
  let before ← get
  set { before with parameters := args, scan := {}, loops := 0 }
  let result ← Sh.attempt (e.evaluate { isTested := flags.isTested } f.body)
  modify fun s =>
    { s with
      parameters := before.parameters
      scan := before.scan
      loops := before.loops
      skip := if s.skip = .function then .none else s.skip }
  match result with
  | .ok _ => return (← get).status
  | .error stop => throw stop

/-- Runs a program beside the shell, or in its place if the shell ends with it. -/
def runProgram (e : Engine) (flags : Flags) (isStandard : Bool) (fields : List Octets) :
    Sh Nat := do
  let name := fields.headD ""
  let path ← if isStandard then pure Builtin.standardPath else searchPath
  let isDirect := name.toList.contains '/'
  let found ← if isDirect then pure (.ok name) else findProgram path name
  match found with
  | .error fault =>
    let reason := faultText "not found" fault
    Sh.warn s!"{name}: {reason}"
    return 127
  | .ok place =>
    if !isDirect && !isStandard && !(← get).remembered.any (·.1 == name) then
      modify fun s => { s with remembered := s.remembered ++ [(name, place)] }
    if flags.exits && (← get).traps.all (fun (_, text) => text = "") then
      executeProgram path fields
    else waitFor (← forkShell e false (executeProgram path fields))

def finishRedirects (keeps : Bool) : Sh Unit := do
  if keeps then keepRedirects
  popRedirects

/-- Carries out a simple command. -/
def simple (e : Engine) (flags : Flags) (lineNumber : Nat) (assignments : List (Octets × Word))
    (words : List Word) (redirects : List Redirect) : Sh Nat := do
  let x := substitute e
  modify fun s => { s with line := lineNumber, substituted? := none }
  let (fields, rest) ← someFields x words
  let line ← if fields.isEmpty then pure { fields, words := [], target := .nothing : Line }
    else resolve x Reader.enough true { fields, words := rest, target := .nothing }
  let fields ← expandRest x line
  let stays := match line.target with
    | .nothing => true
    | .builtin _ => line.isSpecial
    | _ => false
  let isExec := match line.target with
    | .builtin b => b.name == "exec"
    | _ => false
  let depth := (← get).frames.length
  if !stays then pushFrame
  let sources ← redirectSources x redirects
  let failed ← redirectSafely sources
  let status ←
    if failed ≠ 0 then
      modify fun s => { s with status := failed }
      if line.isSpecial then throw (.error failed)
      pure failed
    else do
      let mut assigned : Array (Octets × Octets) := #[]
      for (name, value) in assignments do
        let value ← expandText x value { assigns := true }
        assigned := assigned.push (name, value)
        if stays then setVariable name value (isExec && 1 < fields.length)
        else
          saveVariable name
          setVariable name value true
      trace assigned.toList fields
      match line.target with
      | .nothing => pure ((← get).substituted?.getD 0)
      | .builtin b => runBuiltin e line.isSpecial b fields
      | .function f => call e flags f (fields.drop 1)
      | .program => runProgram e flags line.isStandard fields
  finishRedirects (isExec && failed = 0)
  for _ in List.range ((← get).frames.length - depth) do popFrame
  return status

/-! ## Loops -/

/-- What a round of a loop leaves to do: whether the loop goes on, and whether with the rest of
the round. -/
def afterRound : Sh (Bool × Bool) := do
  let s ← get
  match s.skip with
  | .none => return (true, true)
  | .function => return (false, false)
  | .break levels =>
    set { s with skip := if levels ≤ 1 then .none else .break (levels - 1) }
    return (false, false)
  | .continue levels =>
    if levels ≤ 1 then
      set { s with skip := .none }
      return (true, false)
    else
      set { s with skip := .continue (levels - 1) }
      return (false, false)

def loop (e : Engine) (flags : Flags) (expected : Bool) (test body : Command) :
    (fuel : Nat) → (status : Nat) → Sh Nat
  | 0, status => pure status
  | fuel + 1, status => do
    let held ← e.evaluate { isTested := true } test
    let left := (← get).skip = .function
    match ← afterRound with
    | (false, _) => return if left then held else status
    | (true, false) => loop e flags expected test body fuel status
    | (true, true) =>
      if (held = 0) ≠ expected then return status
      let status ← e.evaluate flags body
      match ← afterRound with
      | (false, _) => return status
      | (true, _) => loop e flags expected test body fuel status

def each (e : Engine) (flags : Flags) (name : Octets) (body : Command) :
    List Octets → (status : Nat) → Sh Nat
  | [], status => pure status
  | value :: rest, _ => do
    setVariable name value
    let status ← e.evaluate flags body
    match ← afterRound with
    | (false, _) => return status
    | (true, _) => each e flags name body rest status

def inLoop (m : Sh Nat) : Sh Nat := do
  modify fun s => { s with loops := s.loops + 1 }
  let status ← m
  modify fun s => { s with loops := s.loops - 1 }
  return status

/-! ## Choices -/

def matchesAny (x : Substitute) (text : Octets) : List Word → Sh Bool
  | [] => pure false
  | w :: rest => do
    if (← expandPattern x w).isMatch text.toList then return true
    matchesAny x text rest

def choose (e : Engine) (flags : Flags) (text : Octets) :
    List (List Word × Option Command) → Sh Nat
  | [] => pure 0
  | (patterns, body?) :: rest => do
    if ← matchesAny (substitute e) text patterns then
      match body? with
      | some body => e.evaluate flags body
      | none => return 0
    else choose e flags text rest

/-! ## Several processes -/

def subshell (e : Engine) (flags : Flags) (lineNumber : Nat) (body : Command)
    (redirects : List Redirect) : Sh Nat := do
  modify fun s => { s with line := lineNumber }
  let sources ← redirectSources (substitute e) redirects
  let inner : Sh Nat := do
    redirect false sources
    e.evaluate { flags with exits := true } body
  if flags.exits && (← get).traps.all (fun (_, text) => text = "") then
    let status ← inner
    throw (.exit status)
  else waitFor (← forkShell e false inner)

/-- The least number that no job has. -/
def freeJob (jobs : List Job) : Nat :=
  ((List.range (jobs.length + 1)).find? fun n => !jobs.any (·.number = n + 1)).getD 0 + 1

def addJob (ids : List Nat) : Sh Unit := modify fun s =>
  let job : Job := { number := freeJob s.jobs, processes := ids.map ({ id := · }) }
  { s with jobs := job :: s.jobs, lastJob? := ids.getLast? }

def background (e : Engine) (lineNumber : Nat) (body : Command) (redirects : List Redirect) :
    Sh Nat := do
  modify fun s => { s with line := lineNumber }
  let sources ← redirectSources (substitute e) redirects
  let id ← forkShell e true do
    readNothing
    redirect false sources
    e.evaluate { exits := true } body
  addJob [id]
  return 0

/-- Starts commands of which each reads what the one in front of it writes. -/
def startAll (e : Engine) (flags : Flags) (isBackground : Bool) :
    (first : Bool) → (input? : Option Nat) → List Command → Sh (List Nat)
  | _, _, [] => pure []
  | first, input?, c :: rest => do
    let ends? : Option (Nat × Nat) ←
      if rest.isEmpty then pure none
      else match ← Sh.ask .newPipe with
        | .ok ends => pure (some ends)
        | .error fault => Sh.fail s!"Pipe call failed: {fault.text}"
    let id ← forkShell e isBackground do
      if isBackground && first then readNothing
      match ends? with
      | some (reader, _) =>
        let _ ← Sh.ask (.close reader)
      | none => pure ()
      match input? with
      | some input => moveDescriptor input 0
      | none => pure ()
      match ends? with
      | some (_, writer) => moveDescriptor writer 1
      | none => pure ()
      e.evaluate { flags with exits := true } c
    match input? with
    | some input =>
      let _ ← Sh.ask (.close input)
    | none => pure ()
    match ends? with
    | some (reader, writer) =>
      let _ ← Sh.ask (.close writer)
      return id :: (← startAll e flags isBackground false (some reader) rest)
    | none => return [id]

def pipeline (e : Engine) (flags : Flags) (commands : List Command) (isBackground : Bool) :
    Sh Nat := do
  let ids ← startAll e flags isBackground true none commands
  if isBackground then
    addJob ids
    return 0
  else
    let mut status := 0
    for id in ids do status ← waitFor id
    return status

/-! ## Commands -/

/-- Whether the failure of a command may end the shell. -/
def endsOnFailure : Command → Bool
  | .simple .. | .pipeline .. | .subshell .. | .background .. => true
  | _ => false

/-- Looks at the status of a command: a failure may end the shell, and so may the command. -/
def conclude (e : Engine) (flags : Flags) (checked : Bool) (status : Nat) : Sh Nat := do
  if (← get).has 'e' && checked && !flags.isTested && status ≠ 0 then Sh.leave
  runTraps e
  if flags.exits then Sh.leave
  return status

def withStatus (m : Sh Nat) : Sh Nat := do
  let status ← m
  modify fun s => { s with status }
  return status

/-- Carries out commands that run others; the flag tells whether a failure may end the shell. -/
def carryOut (e : Engine) (flags : Flags) : Command → Sh (Nat × Bool)
  | .simple line assignments words redirects => do
    return (← withStatus (simple e flags line assignments words redirects), true)
  | .pipeline commands isBackground => do
    return (← withStatus (pipeline e flags commands isBackground), true)
  | .subshell line body redirects => do
    return (← withStatus (subshell e flags line body redirects), true)
  | .background line body redirects => do
    return (← withStatus (background e line body redirects), true)
  | .negation c => do
    let status ← e.evaluate { isTested := true } c
    return (← withStatus (pure (if status = 0 then 1 else 0)), false)
  | .and first second => do
    let status ← e.evaluate { isTested := true } first
    if status ≠ 0 || (← get).skip ≠ .none then return (status, false)
    return (← withStatus (e.evaluate flags second), false)
  | .or first second => do
    let status ← e.evaluate { isTested := true } first
    if status = 0 || (← get).skip ≠ .none then return (status, false)
    return (← withStatus (e.evaluate flags second), false)
  | .sequence first second => do
    let status ← e.evaluate { isTested := flags.isTested } first
    if (← get).skip ≠ .none then return (status, false)
    return (← withStatus (e.evaluate flags second), false)
  | .redirected line c redirects => do
    modify fun s => { s with line }
    let sources ← redirectSources (substitute e) redirects
    let failed ← redirectSafely sources
    let status ← if failed ≠ 0 then pure failed
      else e.evaluate { isTested := flags.isTested } c
    popRedirects
    return (← withStatus (pure status), failed ≠ 0)
  | .branch test body otherwise? => do
    let status ← e.evaluate { isTested := true } test
    if (← get).skip ≠ .none then return (status, false)
    if status = 0 then return (← withStatus (e.evaluate flags body), false)
    match otherwise? with
    | some c => return (← withStatus (e.evaluate flags c), false)
    | none => return (← withStatus (pure 0), false)
  | .loop expected test body => do
    let inner : Flags := { isTested := flags.isTested }
    return (← withStatus (inLoop (loop e inner expected test body Reader.enough 0)), false)
  | .each line name words body => do
    modify fun s => { s with line }
    let mut values : Array (List Octets) := #[]
    for w in words do values := values.push (← expandFields (substitute e) w)
    let inner : Flags := { isTested := flags.isTested }
    return (← withStatus (inLoop (each e inner name body values.toList.flatten 0)), false)
  | .choice line word cases => do
    modify fun s => { s with line }
    let text ← expandText (substitute e) word
    return (← withStatus (choose e flags text cases), false)
  | .function line name body => do
    modify fun s =>
      { s with functions := { name, line, body } :: s.functions.filter (·.name != name) }
    return (← withStatus (pure 0), false)

/-- Carries out a command. Commands nest only so deep. -/
def evaluate : (fuel : Nat) → Flags → Command → Sh Nat
  | 0, _, _ => Sh.fail "commands nest too deep"
  | fuel + 1, flags, c => do
    let e : Engine := { evaluate := evaluate fuel }
    Sh.tick
    runTraps e
    let (status, checked) ← carryOut e flags c
    conclude e flags checked status

def engine : Engine := { evaluate := evaluate Reader.enough }

end AssetWatch.Shell
