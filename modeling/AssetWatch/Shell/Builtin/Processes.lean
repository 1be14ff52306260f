import AssetWatch.Shell.Builtin.Basic
import AssetWatch.Utility.Mode

/-!
# Builtins for processes and signals
-/

namespace AssetWatch.Shell.Builtin

open AssetWatch.Host

/-! ## Signals -/

/-- A signal by its number or name; the end of the shell has a name if `withEnd`. -/
def signal? (withEnd : Bool) (text : Octets) : Option Nat :=
  if text ≠ "" && text.all Char.isDigit then text.toNat?.filter (· ≤ Signal.count)
  else if withEnd && text.toLower = "exit" then some 0
  else Signal.ofName? text

/-! ## Jobs -/

def isRunning (j : Job) : Bool := j.processes.any fun p => p.ending?.isNone

/-- How a job ended, which is how its last process ended. -/
def endingOf (j : Job) : Ending := (j.processes.getLast?.bind (·.ending?)).getD (.exited 0)

def endingText : Ending → Octets
  | .exited 0 => "Done"
  | .exited status => s!"Done({status})"
  | .killed signal => Signal.description signal

/-- The job that a text names. -/
def job (text : Octets) : Sh Job := do
  let jobs := (← get).jobs
  let found := match text.toList with
    | '%' :: [] | '%' :: '%' :: [] | '%' :: '+' :: [] => jobs.head?
    | '%' :: '-' :: [] => (jobs.drop 1).head?
    | '%' :: rest => (String.ofList rest).toNat?.bind fun n => jobs.find? (·.number == n)
    | _ => none
  match found with
  | some job => return job
  | none => Sh.fail s!"No such job: {text}"

def padTo (width : Nat) (s : Octets) : Octets :=
  s ++ String.ofList (List.replicate (width - s.length) ' ')

/-- The lines that tell of a job. -/
def jobLines (mark : String) (withNumbers : Bool) (j : Job) : Octets :=
  let front := s!"[{j.number}] {mark} "
  let state := if isRunning j then "Running" else endingText (endingOf j)
  let numbers := j.processes.map fun p => toString p.id
  if withNumbers then
    let indent := String.ofList (List.replicate front.length ' ')
    let first := padTo 33 (front ++ numbers.headD "" ++ " " ++ state)
    let rest := (numbers.drop 1).map fun n => " |\n" ++ padTo 33 (indent ++ n ++ " ")
    first ++ String.join rest ++ "\n"
  else
    let bars := String.join ((numbers.drop 1).map fun _ => " | ")
    padTo 33 (front ++ state) ++ bars ++ "\n"

def listJobs (words : List Octets) : Sh Nat := do
  let (found, operands) ← readOptions "lp" words
  pollJobs fun _ => false
  let chosen ← match operands with
    | [] => pure (← get).jobs
    | operands => operands.mapM job
  for j in chosen do
    let s ← get
    let mark := if (s.jobs.head?.map (·.number)) == some j.number then "+"
      else if ((s.jobs.drop 1).head?.map (·.number)) == some j.number then "-" else " "
    let text := match found.getLast?.map (·.1) with
      | some 'p' => match j.processes.head? with
        | some p => s!"{p.id}\n"
        | none => ""
      | some _ => jobLines mark true j
      | none => jobLines mark false j
    let _ ← print text
    if !isRunning j then
      modify fun s => { s with jobs := s.jobs.filter (·.number != j.number) }
  return 0

/-- Waits until no process of the chosen jobs runs any more; a status tells that a signal came
first. -/
def awaitJobs (chosen tells : Job → Bool) : (fuel : Nat) → Sh (Option Nat)
  | 0 => pure none
  | fuel + 1 => do
    pollJobs tells
    if !(← get).jobs.any (fun j => chosen j && isRunning j) then return none
    match ← Sh.ask (.await none .untilSignal) with
    | .ok (some (id, ending)) =>
      let mut jobs : Array Job := #[]
      for j in (← get).jobs do
        if j.processes.any (·.id = id) then
          if tells j then tellEnding ending
          let note (p : JobProcess) : JobProcess :=
            if p.id = id then { p with ending? := some ending } else p
          jobs := jobs.push { j with processes := j.processes.map note }
        else jobs := jobs.push j
      modify fun s => { s with jobs := jobs.toList }
      awaitJobs chosen tells fuel
    | .ok none => awaitJobs chosen tells fuel
    | .error .interrupted =>
      let arrived : List Nat ← Sh.ask .arrived
      modify fun s => { s with pending := s.pending ++ arrived }
      return some (128 + arrived.getLastD 0)
    | .error _ => return none

def waitForJob (word : Octets) : Sh (Option Job) := do
  if word.startsWith "%" then return some (← job word)
  let id ← number word
  return (← get).jobs.find? fun j => (j.processes.getLast?.map (·.id)) == some id

def waitForAll : List Octets → (status : Nat) → Sh Nat
  | [], status => pure status
  | word :: rest, _ => do
    match ← waitForJob word with
    | none => waitForAll rest 127
    | some j =>
      let isIt (other : Job) : Bool := other.number == j.number
      if isRunning j then
        if let some early := ← awaitJobs isIt isIt Reader.enough then return early
      let ending := (((← get).jobs.find? isIt).map endingOf).getD (.exited 127)
      waitForAll rest (statusOf ending)

def wait (words : List Octets) : Sh Nat := do
  match (← readOptions "" words).2 with
  | [] => return (← awaitJobs (fun _ => true) (fun _ => false) Reader.enough).getD 0
  | operands => waitForAll operands 127

def resumeJob (words : List Octets) : Sh Nat := do
  let j ← match words.drop 1 with
    | [] => match (← get).jobs.head? with
      | some j => pure j
      | none => Sh.fail "No current job"
    | word :: _ => job word
  let name := (words.drop 1).headD s!"%{j.number}"
  Sh.fail s!"job {name} not created under job control"

/-! ## Sending and catching signals -/

def killUsage {α : Type} : Sh α :=
  Sh.fail ("Usage: kill [-s sigspec | -signum | -sigspec] [pid | job]... or\n" ++
    "kill -l [exitstatus]")

def listSignals (operands : List Octets) : Sh Nat := do
  match operands with
  | [] =>
    let names := ((List.range (Signal.count + 1)).drop 1).map fun n => Signal.name n ++ "\n"
    print ("0\n" ++ String.join names)
  | word :: _ =>
    let n ← number word
    let n := if 128 < n then n - 128 else n
    if 0 < n && n ≤ Signal.count then print (Signal.name n ++ "\n")
    else Sh.fail s!"invalid signal number or exit status: {word}"

/-- Sends a signal to what a word names. -/
def killOne (signal : Nat) (word : Octets) : Sh Nat := do
  let id : Int ←
    if word.startsWith "%" then do
      let j ← job word
      pure (-(((j.processes.head?.map (·.id)).getD 0 : Nat) : Int))
    else match word.toList with
      | '-' :: rest => do pure (-((← number (String.ofList rest) : Nat) : Int))
      | _ => do pure ((← number word : Nat) : Int)
  match ← Sh.ask (.kill id signal) with
  | .ok _ => return 0
  | .error fault =>
    Sh.warn s!"{fault.text}\n"
    return 1

def killAll (signal : Nat) (operands : List Octets) : Sh Nat := do
  if operands.isEmpty then killUsage
  let mut status := 0
  for word in operands do
    status := status ||| (← killOne signal word)
  return status

def kill (words : List Octets) : Sh Nat := do
  match words.drop 1 with
  | [] => killUsage
  | first :: rest =>
    if !first.startsWith "-" then killAll Signal.terminate (first :: rest)
    else match signal? false (first.drop 1).toString with
      | some signal => killAll signal rest
      | none =>
        let (found, operands) ← readOptions "ls:" words
        let mut signal? : Option Nat := none
        for (c, value) in found do
          if c = 's' then
            match Builtin.signal? false value with
            | some signal => signal? := some signal
            | none => Sh.fail s!"invalid signal number or name: {value}"
        if found.any (·.1 = 'l') then
          if signal?.isSome then killUsage else listSignals operands
        else killAll (signal?.getD Signal.terminate) operands

def listTraps : Sh Nat := do
  let traps := ((← get).traps.mergeSort fun a b => a.1 ≤ b.1).map fun (signal, text) =>
    let name := if signal = 0 then "EXIT" else Signal.name signal
    s!"trap -- {quoted text} {name}\n"
  print (String.join traps)

/-- What becomes of a signal from now on: its command, or none. -/
def setTrap (action? : Option Octets) (signal : Nat) : Sh Unit := do
  modify fun s =>
    let others := s.traps.filter (·.1 ≠ signal)
    { s with traps := match action? with
        | some text => (signal, text) :: others
        | none => others }
  if signal ≠ 0 && !(← get).deaf.contains signal then
    Sh.ask <| .dispose signal <| match action? with
      | none => .standard
      | some "" => .ignored
      | some _ => .caught

def trap (words : List Octets) : Sh Nat := do
  let (_, operands) ← readOptions "" words
  match operands with
  | [] => listTraps
  | first :: rest =>
    let isNumber := first ≠ "" && first.all Char.isDigit
    let (action?, signals) : Option Octets × List Octets :=
      if rest.isEmpty || (isNumber && (signal? true first).isSome) then (none, operands)
      else (if first = "-" then none else some first, rest)
    for word in signals do
      match signal? true word with
      | some signal => setTrap action? signal
      | none =>
        Sh.warnPlain s!"trap: {word}: bad trap"
        return 1
    return 0

/-! ## Limits -/

/-- The rights that a mask leaves, for user, group and others. -/
def maskText (mask : Nat) : Octets :=
  let rights (shift : Nat) : Octets :=
    let bits := mask >>> shift
    (if bits &&& 4 = 0 then "r" else "") ++ (if bits &&& 2 = 0 then "w" else "") ++
      (if bits &&& 1 = 0 then "x" else "")
  s!"u={rights 6},g={rights 3},o={rights 0}\n"

def octal (width n : Nat) : Octets :=
  let digits := String.ofList (Nat.toDigits 8 n)
  String.ofList (List.replicate (width - digits.length) '0') ++ digits

def umask (words : List Octets) : Sh Nat := do
  let (found, operands) ← readOptions "S" words
  let mask : Nat ← Sh.ask (.mask none)
  match operands with
  | [] => if found.isEmpty then print (octal 4 mask ++ "\n") else print (maskText mask)
  | word :: _ =>
    if (word.toList.headD ' ').isDigit then
      if word.all fun c => '0' ≤ c && c ≤ '7' then
        let value := word.foldl (fun n c => n * 8 + (c.toNat - '0'.toNat)) 0
        let _ ← Sh.ask (.mask (some (value % 512)))
        return 0
      else Sh.fail s!"Illegal number: {word}"
    else
      match Utility.Mode.parse? word with
      | some change =>
        let rights := change.apply false 0 (511 - mask) &&& 511
        let _ ← Sh.ask (.mask (some (511 - rights)))
        return 0
      | none => Sh.fail s!"Illegal mode: {word}"

/-- The limits that can be asked for, with what they are. -/
def limits : List (Char × String × String) := [
  ('t', "time(seconds)", "unlimited"), ('f', "file(blocks)", "unlimited"),
  ('d', "data(kbytes)", "unlimited"), ('s', "stack(kbytes)", "8192"),
  ('c', "coredump(blocks)", "0"), ('m', "memory(kbytes)", "unlimited"),
  ('l', "locked memory(kbytes)", "8192"), ('p', "process", "unlimited"),
  ('n', "nofiles", "1048576"), ('v', "vmemory(kbytes)", "unlimited"),
  ('w', "locks", "unlimited"), ('r', "rtprio", "0")]

def ulimit (words : List Octets) : Sh Nat := do
  let (found, operands) ← readOptions "HSatfdscmlpnvwr" words
  if found.any (·.1 = 'a') then
    print (String.join (limits.map fun (_, name, value) => padTo 20 name ++ " " ++ value ++ "\n"))
  else
    let asked := (found.map (·.1)).filter fun c => c ≠ 'H' && c ≠ 'S'
    match operands with
    | [] =>
      match limits.lookup (asked.getLastD 'f') with
      | some (_, value) => print (value ++ "\n")
      | none => return 0
    | _ => return 0

def times : Sh Nat := print "0m0.000000s 0m0.000000s\n0m0.000000s 0m0.000000s\n"

def processes : List Builtin := [
  { name := "kill", run := fun _ => kill },
  { name := "wait", run := fun _ => wait },
  { name := "jobs", run := fun _ => listJobs },
  { name := "fg", run := fun _ => resumeJob },
  { name := "bg", run := fun _ => resumeJob },
  { name := "trap", isSpecial := true, run := fun _ => trap },
  { name := "times", isSpecial := true, run := fun _ _ => times },
  { name := "umask", run := fun _ => umask },
  { name := "ulimit", run := fun _ => ulimit }]

end AssetWatch.Shell.Builtin
