import AssetWatch.Shell.Expansion
import AssetWatch.Shell.Grammar

/-!
# Running commands, from outside

Builtins run commands themselves. What they need for it is an engine: a way to carry out a
command that has been read. With it a text is carried out line by line, a subshell runs beside
its shell, and a signal causes the command of its trap.
-/

namespace AssetWatch.Shell

open Host (Ending Fault Task)

/-- How a command is carried out. -/
structure Flags where
  /-- its failure is looked at, and so does not end the shell -/
  isTested : Bool := false
  /-- the shell ends with it -/
  exits : Bool := false

structure Engine where
  evaluate : Flags → Command → Sh Nat

/-! ## Faults -/

/-- What a shell says of a fault: of a program, of a file to be read, and of one to be
written. -/
def faultText (missing : Octets) : Fault → Octets
  | .notFound | .notDirectory => missing
  | fault => fault.text

def statusOf : Ending → Nat
  | .exited status => status
  | .killed signal => 128 + signal

/-! ## Texts as commands -/

/-- Carries out a script line by line; with `exits` the last command ends the shell. -/
def runLines (e : Engine) (flags : Flags) : (fuel : Nat) → Source → Nat → Sh Nat
  | 0, _, status => pure status
  | fuel + 1, source, status => do
    let s ← get
    let source := { source with aliases := s.aliases, documents := s.documents }
    match Reader.line.run source with
    | .error m =>
      modify fun s => { s with line := m.line }
      Sh.fail m.text
    | .ok (none, after) =>
      modify fun s => { s with documents := after.documents }
      return status
    | .ok (some (command?, ended), after) =>
      modify fun s => { s with documents := after.documents }
      let status ← match command? with
        | some c =>
          if s.has 'n' then pure status
          else e.evaluate { flags with exits := flags.exits && ended } c
        | none => pure status
      if (← get).skip ≠ .none then return status
      runLines e flags fuel after status

def runText (e : Engine) (flags : Flags) (text : Octets) : Sh Nat :=
  runLines e flags Reader.enough { chars := text.toList } 0

/-! ## Traps -/

/-- Carries out the command of a trap; the status stays as it was. -/
def runTrap (e : Engine) (text : Octets) : Sh Unit := do
  let s ← get
  let before := s.kept?.getD s.status
  set { s with kept? := some before }
  let _ ← runText e {} text
  modify fun after =>
    { after with
      kept? := s.kept?
      status := if after.skip = .function then after.status else before }

/-- Carries out the traps of signals that have arrived, in the order of the signals. -/
def runTraps (e : Engine) : Sh Unit := do
  let s ← get
  if s.traps.any fun (signal, text) => signal ≠ 0 && text ≠ "" then
    let arrived : List Nat ← Sh.ask .arrived
    let all := (s.pending ++ arrived).mergeSort (· ≤ ·)
    modify fun s => { s with pending := [] }
    for signal in all.eraseDups do
      let s ← get
      if s.skip ≠ .none then set { s with pending := s.pending ++ [signal] }
      else match s.traps.lookup signal with
        | some text => runTrap e text
        | none => pure ()

/-! ## Descriptors -/

/-- Puts descriptors back as they were. -/
def restore (saved : List (Nat × Option Nat)) : Sh Unit := do
  for (descriptor, copy?) in saved do
    match copy? with
    | some copy =>
      let _ ← Sh.ask (.copyTo copy descriptor)
      let _ ← Sh.ask (.close copy)
    | none =>
      let _ ← Sh.ask (.close descriptor)

def popRedirects : Sh Unit := do
  match (← get).saved with
  | saved :: rest =>
    modify fun s => { s with saved := rest }
    restore saved
  | [] => pure ()

/-- Lets descriptors stay as they have become. -/
def keepRedirects : Sh Unit := do
  match (← get).saved with
  | saved :: rest =>
    modify fun s => { s with saved := [] :: rest }
    for (_, copy?) in saved do
      match copy? with
      | some copy =>
        let _ ← Sh.ask (.close copy)
      | none => pure ()
  | [] => pure ()

/-- Puts back everything, when the shell ends. -/
def unwind : Sh Unit := do
  for _ in (← get).saved do popRedirects
  for _ in (← get).frames do popFrame
  modify fun s => { s with skip := .none, loops := 0, builtin? := none }

/-- Keeps a copy of a descriptor that is about to change. -/
def saveDescriptor (descriptor : Nat) : Sh Unit := do
  match (← get).saved with
  | saved :: rest =>
    if saved.any (·.1 == descriptor) then return
    let copy? := (← Sh.ask (.copyAbove descriptor 10)).toOption
    modify fun s => { s with saved := ((descriptor, copy?) :: saved) :: rest }
  | [] => pure ()

/-- A redirection whose words have been replaced. -/
inductive Redirected
  | file (kind : RedirectKind) (name : Octets)
  | copy (descriptor : Nat)
  | close
  | text (content : Octets)

def redirectSource (x : Substitute) : Redirect → Sh (Nat × Redirected)
  | .file kind descriptor target => do
    let name ← expandText x target
    match kind with
    | .copyInput | .copyOutput =>
      if name = "-" then return (descriptor, .close)
      match name.toList with
      | [c] =>
        if c.isDigit then return (descriptor, .copy (c.toNat - '0'.toNat))
        else Sh.fail "Syntax error: Bad fd number"
      | _ => Sh.fail "Syntax error: Bad fd number"
    | kind => return (descriptor, .file kind name)
  | .document descriptor number => do
    let word := (← get).documents[number]?.getD []
    return (descriptor, .text (← expandText x word { hasHome := false }))

/-- Opens the file of a redirection. -/
def openTarget (kind : RedirectKind) (name : Octets) : Sh Nat := do
  let opened (access : Host.Access) (report : Fault → Octets) : Sh Nat := do
    match ← Sh.ask (.openFile name access) with
    | .ok descriptor => return descriptor
    | .error fault => Sh.fail (report fault)
  let cannotOpen (fault : Fault) : Octets :=
    s!"cannot open {name}: " ++ faultText "No such file" fault
  let cannotCreate (fault : Fault) : Octets :=
    s!"cannot create {name}: " ++ faultText "Directory nonexistent" fault
  match kind with
  | .output =>
    if (← get).has 'C' then
      match ← Sh.ask (.status name true) with
      | .ok st =>
        if st.kind = .file then Sh.fail (cannotCreate .exists)
        else opened { writes := true } cannotCreate
      | .error _ => opened { Host.Access.writing with excludes := true } cannotCreate
    else opened Host.Access.writing cannotCreate
  | .overwrite => opened Host.Access.writing cannotCreate
  | .append => opened Host.Access.appending cannotCreate
  | .both => opened { reads := true, writes := true, creates := true } cannotCreate
  | _ => opened Host.Access.reading cannotOpen

def moveDescriptor (opened descriptor : Nat) : Sh Unit := do
  if opened ≠ descriptor then
    let _ ← Sh.ask (.copyTo opened descriptor)
    let _ ← Sh.ask (.close opened)

/-- Replaces what stands in the words of redirections. -/
def redirectSources (x : Substitute) (rs : List Redirect) : Sh (List (Nat × Redirected)) := do
  let mut sources : Array (Nat × Redirected) := #[]
  for r in rs do sources := sources.push (← redirectSource x r)
  return sources.toList

/-- Does redirections, in order. With `saves`, what they change is kept to be put back. -/
def redirect (saves : Bool) (sources : List (Nat × Redirected)) : Sh Unit := do
  for (descriptor, source) in sources do
    match source with
    | .file kind name =>
      let opened ← openTarget kind name
      if saves && opened ≠ descriptor then saveDescriptor descriptor
      else if saves then modify fun s => match s.saved with
        | saved :: rest => { s with saved := ((descriptor, none) :: saved) :: rest }
        | [] => s
      moveDescriptor opened descriptor
    | .copy n =>
      if n ≠ descriptor then
        if saves then saveDescriptor descriptor
        match ← Sh.ask (.copyTo n descriptor) with
        | .ok _ => pure ()
        | .error fault => Sh.fail s!"{n}: {fault.text}"
    | .close =>
      if saves then saveDescriptor descriptor
      let _ ← Sh.ask (.close descriptor)
    | .text content =>
      match ← Sh.ask .newPipe with
      | .ok (reader, writer) =>
        if content.length ≤ 4096 then
          let _ ← Sh.write writer content
        else
          let _ ← Sh.lift <| Host.Proc.fork do
            let _ ← Host.Proc.ask (.close reader)
            let _ ← Host.Proc.ask (.write writer content.bytes)
            return 0
        let _ ← Sh.ask (.close writer)
        if saves then saveDescriptor descriptor
        moveDescriptor reader descriptor
      | .error fault => Sh.fail s!"Pipe call failed: {fault.text}"

/-- Does redirections that are to be put back, and gives a status that is not zero if one of
them fails. -/
def redirectSafely (sources : List (Nat × Redirected)) : Sh Nat := do
  modify fun s => { s with saved := [] :: s.saved }
  match ← Sh.attempt (redirect true sources) with
  | .ok _ => return 0
  | .error (.error status) => return status
  | .error stop => throw stop

/-! ## Subshells -/

/-- Ends a shell: the command of its last trap is carried out. -/
def finish (e : Engine) (result : Except Stop Nat) : Sh Nat := do
  let status := match result with
    | .ok status | .error (.exit status) | .error (.error status) => status
  unwind
  match (← get).traps.lookup 0 with
  | none => return status
  | some text =>
    modify fun s =>
      { s with traps := s.traps.filter (·.1 ≠ 0), status, kept? := some status }
    match ← Sh.attempt (runText e {} text) with
    | .ok _ => return status
    | .error (.exit status) | .error (.error status) => return status

/-- The state of a shell that begins beside its parent. -/
def State.child (s : State) : State :=
  { s with
    traps := s.traps.filter fun (signal, text) => signal ≠ 0 && text = ""
    jobs := []
    saved := []
    pending := []
    kept? := none }

/-- Starts a shell beside this one, and gives its number. One of the background reads nothing
and does not hear interrupts. -/
def forkShell (e : Engine) (background : Bool) (body : Sh Nat) : Sh Nat := fun s next =>
  let prepare : Sh Unit := do
    for (signal, text) in s.traps do
      if text ≠ "" && signal ≠ 0 then Sh.ask (.dispose signal .standard)
    if background then
      Sh.ask (.dispose Host.Signal.interrupt .ignored)
      Sh.ask (.dispose Host.Signal.quit .ignored)
  let whole : Sh Nat := do
    prepare
    finish e (← Sh.attempt body)
  let deaf := if background then [Host.Signal.interrupt, Host.Signal.quit] else []
  let child : Task := whole { s.child with deaf := s.deaf ++ deaf } fun result _ =>
    match result with
    | .ok status => .exit status
    | .error _ => .exit 2
  .fork child fun id => next (.ok id) s

/-- Lets a process of the background read nothing. -/
def readNothing : Sh Unit := do
  match ← Sh.ask (.openFile "/dev/null" Host.Access.reading) with
  | .ok descriptor => moveDescriptor descriptor 0
  | .error _ => pure ()

/-- Tells that a process was ended by a signal, unless that is what one expects of it. -/
def tellEnding : Ending → Sh Unit
  | .killed signal =>
    if signal = Host.Signal.interrupt || signal = Host.Signal.pipe then pure ()
    else Sh.warnPlain (Host.Signal.description signal)
  | .exited _ => pure ()

/-- Learns which processes of the background have ended, and tells of those of some jobs. -/
def pollJobs (tells : Job → Bool) : Sh Unit := do
  let mut jobs : Array Job := #[]
  for job in (← get).jobs do
    let mut processes : Array JobProcess := #[]
    for p in job.processes do
      let ending? : Option Ending ←
        if p.ending?.isSome then pure p.ending?
        else match ← Sh.ask (.await (some p.id) .instant) with
          | .ok (some (_, ending)) =>
            if tells job then tellEnding ending
            pure (some ending)
          | .ok none => pure none
          | .error _ => pure (some (.exited 127))
      processes := processes.push { p with ending? }
    jobs := jobs.push { job with processes := processes.toList }
  modify fun s => { s with jobs := jobs.toList }

/-- Waits for a process that the shell has started and gives its status. -/
def waitFor (id : Nat) : Sh Nat := do
  let reply ← Sh.ask (.await (some id) .untilEnded)
  if !(← get).jobs.isEmpty then pollJobs fun _ => false
  match reply with
  | .ok (some (_, ending)) =>
    tellEnding ending
    return statusOf ending
  | _ => return 127

/-- Reads until the end of what a descriptor gives, the last stretch in front. -/
def readAll (descriptor : Nat) : (fuel : Nat) → List Octets → Sh (List Octets)
  | 0, taken => pure taken
  | fuel + 1, taken => do
    match ← Sh.ask (.read descriptor 65536) with
    | .ok bytes =>
      if bytes.isEmpty then return taken
      readAll descriptor fuel (Octets.ofBytes bytes :: taken)
    | .error _ => return taken

def dropLineEnds (text : Octets) : Octets :=
  if text.endsWith "\n" then
    String.ofList (text.toList.reverse.dropWhile (· = '\n')).reverse
  else text

/-- What a command writes to its output, without line ends behind it. -/
def substitute (e : Engine) : Substitute := fun body => do
  match body with
  | none => return ""
  | some command =>
    match ← Sh.ask .newPipe with
    | .error fault => Sh.fail s!"Pipe call failed: {fault.text}"
    | .ok (reader, writer) =>
      let id ← forkShell e false do
        let _ ← Sh.ask (.close reader)
        moveDescriptor writer 1
        e.evaluate { exits := true } command
      let _ ← Sh.ask (.close writer)
      let text := String.join (← readAll reader Reader.enough []).reverse
      let _ ← Sh.ask (.close reader)
      let status ← waitFor id
      modify fun s => { s with substituted? := some status }
      let text := if text.toList.contains '\x00' then String.ofList (text.toList.filter (· ≠ '\x00'))
        else text
      return dropLineEnds text

end AssetWatch.Shell
