import AssetWatch.Host.Signal
import AssetWatch.Utility.Values

/-!
# Utilities that run programs

They find a program as the system does: in the directories of the search path, or at the path
that is given. A file that is no program is run by the shell.
-/

namespace AssetWatch.Utility

open Host (Ending Fault Proc)

/-! ## Finding and running -/

/-- Tries a program at candidates, one after the other. -/
def executeAmong (args : List Octets) (bindings : List (Octets × Octets)) (isDenied : Bool)
    (last : Fault) : List Octets → Tool Fault
  | [] => pure (if isDenied then .accessDenied else last)
  | candidate :: rest => do
    match ← Tool.ask (.execute candidate args bindings) with
    | .unknownFormat =>
      Tool.ask (.execute "/bin/sh" ("/bin/sh" :: candidate :: args.drop 1) bindings)
    | .accessDenied => executeAmong args bindings true .accessDenied rest
    | .notFound => executeAmong args bindings isDenied .notFound rest
    | .notDirectory => executeAmong args bindings isDenied .notDirectory rest
    | fault => return fault

/-- Goes on as another program; an answer means that this is refused. -/
def becomeProgram (args : List Octets) (bindings : List (Octets × Octets)) : Tool Fault := do
  Tool.flush
  let name := args.headD ""
  if name = "" then return .notFound
  let path := (bindings.lookup "PATH").getD "/bin:/usr/bin"
  let candidates := if name.toList.contains '/' then [name]
    else (path.splitOn ":").map fun dir => if dir = "" then name else s!"{dir}/{name}"
  executeAmong args bindings false .notFound candidates

def refusedStatus (fault : Fault) : Nat := if fault = .notFound then 127 else 126

/-- Goes on as another program, or tells why not. -/
def become {α : Type} (args : List Octets) (bindings : List (Octets × Octets))
    (report : Octets → Octets) : Tool α := do
  let fault ← becomeProgram args bindings
  let name := report (args.headD "")
  Tool.fail s!"{name}: {fault.text}" (refusedStatus fault)

/-- Starts a child that does this, and gives its number. -/
def startChild (m : Tool Unit) : Tool Nat := do
  Tool.flush
  let s ← get
  Tool.lift (Proc.fork do
    let ended : Tool Unit := do
      try m
      catch status => Tool.setStatus status
    let (_, s) ← (ExceptT.run ended).run { s with status := 0 }
    return s.status)

def awaitChild (child : Nat) : Tool Ending := do
  match ← Tool.ask (.await (some child) .untilEnded) with
  | .ok (some (_, ending)) => return ending
  | _ => return .exited 127

def couldNotRun (name : Octets) : Octets := s!"failed to run command {quoteName name}"

/-! ## The environment -/

def bindTo (bindings : List (Octets × Octets)) (name value : Octets) : List (Octets × Octets) :=
  if bindings.any (·.1 == name) then
    bindings.map fun (n, v) => (n, if n == name then value else v)
  else bindings ++ [(name, value)]

/-- How the words of one text are told apart. -/
inductive Quoting
  | outside
  | single
  | double
  deriving DecidableEq

/-- The words of a text, with quotes, escapes and variables in it. -/
def splitText (bindings : List (Octets × Octets)) : (fuel : Nat) → Quoting → List Char →
    (word? : Option Octets) → List Octets
  | 0, _, _, word? => word?.toList
  | _, _, [], word? => word?.toList
  | fuel + 1, quoting, c :: rest, word? =>
    let word := word?.getD ""
    let add (text : Octets) (rest : List Char) : List Octets :=
      splitText bindings fuel quoting rest (some (word ++ text))
    let isBlank := c = ' ' || ('\t' ≤ c && c ≤ '\r')
    if quoting = .outside && isBlank then
      word?.toList ++ splitText bindings fuel quoting rest none
    else if quoting = .outside && c = '#' && word?.isNone then []
    else if c = '\x27' && quoting ≠ .double then
      splitText bindings fuel (if quoting = .single then .outside else .single) rest (some word)
    else if c = '"' && quoting ≠ .single then
      splitText bindings fuel (if quoting = .double then .outside else .double) rest (some word)
    else if c = '$' && quoting ≠ .single && rest.head? = some '\x7b' then
      let name := (rest.drop 1).takeWhile (· ≠ '\x7d')
      add ((bindings.lookup (String.ofList name)).getD "") (rest.drop (name.length + 2))
    else if c = '\\' then
      match rest with
      | [] => add "\\" []
      | d :: more =>
        if quoting = .single && d ≠ '\\' && d ≠ '\x27' then add "\\" rest
        else match d with
          | 'c' => word?.toList
          | '_' =>
            if quoting = .outside then
              word?.toList ++ splitText bindings fuel quoting more none
            else add " " more
          | 'n' => add "\n" more
          | 't' => add "\t" more
          | 'r' => add "\r" more
          | 'f' => add "\x0c" more
          | 'v' => add "\x0b" more
          | d => add d.toString more
    else add c.toString rest

def envOptions : Options := {
  letters := "iu:0C:vS:"
  long := [("ignore-environment", 'i'), ("unset", 'u'), ("null", '0'), ("chdir", 'C'),
    ("debug", 'v'), ("split-string", 'S')]
  words := [("block-signal", .optional), ("default-signal", .optional),
    ("ignore-signal", .optional), ("list-signal-handling", .none)]
  inFront := true
  misused := 125 }

/-- Words in which texts of several words have been taken apart. -/
def splitWords (bindings : List (Octets × Octets)) : (fuel : Nat) → List Octets → List Octets
  | 0, words => words
  | fuel + 1, words =>
    match words with
    | word :: rest =>
      let split (text : Octets) (rest : List Octets) : List Octets :=
        splitWords bindings fuel
          (splitText bindings (text.length + 1) .outside text.toList none ++ rest)
      if word.startsWith "--split-string=" then split (word.drop 15).toString rest
      else match word.toList with
        | '-' :: 'S' :: [] => match rest with
          | text :: rest => split text rest
          | [] => words
        | '-' :: 'S' :: text => split (String.ofList text) rest
        | '-' :: 'v' :: 'S' :: text => split (String.ofList text) rest
        | '-' :: 'i' :: 'S' :: text => "-i" :: split (String.ofList text) rest
        | '-' :: _ :: _ => if word = "--" then words else word :: splitWords bindings fuel rest
        | _ => words
    | [] => []

/-- Takes the bindings in front of a command. -/
def takeBindings (bindings : List (Octets × Octets)) :
    List Octets → List (Octets × Octets) × List Octets
  | [] => (bindings, [])
  | word :: rest =>
    let (name, behind) := word.toList.span (· ≠ '=')
    if behind.isEmpty then (bindings, word :: rest)
    else takeBindings (bindTo bindings (String.ofList name) (String.ofList (behind.drop 1))) rest

def env (words : List Octets) : Tool Unit := do
  let own := (← get).bindings
  let (found, operands) ← envOptions.read (splitWords own (words.length + 8) words)
  let (isBare, operands) := match operands with
    | "-" :: rest => (true, rest)
    | operands => (Given.has found "i", operands)
  let start := if isBare then [] else own
  let kept := found.foldl (fun kept g =>
    if g.name = "u" then kept.filter (·.1 != g.value) else kept) start
  let (bindings, command) := takeBindings kept operands
  match Given.value? found "C" with
  | some folder =>
    if command.isEmpty then Tool.misuse "must specify command with --chdir (-C)" 125
    match ← Tool.ask (.enter folder) with
    | .ok _ => pure ()
    | .error fault => Tool.fail s!"cannot change directory to {quoteName folder}: {fault.text}" 125
  | none => pure ()
  match command with
  | [] =>
    for (name, value) in bindings do
      Tool.print (s!"{name}={value}" ++ (if Given.has found "0" then "\x00" else "\n"))
  | name :: _ =>
    if Given.has found "0" then Tool.misuse "cannot specify --null (-0) with command" 125
    let fault ← becomeProgram command bindings
    Tool.warn s!"{quoteName name}: {fault.text}"
    if fault = .notFound && name.toList.contains ' ' then
      Tool.warn "use -[v]S to pass options in shebang lines"
    throw (refusedStatus fault)

def printenv (words : List Octets) : Tool Unit := do
  let (found, names) ← Options.read {
    letters := "0", long := [("null", '0')], inFront := true, misused := 2 } words
  let ending := if Given.has found "0" then "\x00" else "\n"
  let bindings := (← get).bindings
  if names.isEmpty then
    for (name, value) in bindings do
      Tool.print (s!"{name}={value}" ++ ending)
  else
    for name in names do
      match bindings.lookup name with
      | some value => Tool.print (value ++ ending)
      | none => Tool.setStatus 1

/-! ## Programs under conditions -/

/-- Runs a program under conditions that nothing here can tell apart. -/
def runPlainly (options : Options) (report : Octets → Octets) (words : List Octets) :
    Tool Unit := do
  let (_, command) ← options.read words
  if command.isEmpty then Tool.misuse "missing operand" options.misused
  become command (← get).bindings report

def nohup (words : List Octets) : Tool Unit := do
  let _ ← Tool.ask (.dispose Host.Signal.hangUp .ignored)
  runPlainly { inFront := true, misused := 125 } couldNotRun words

def nice (words : List Octets) : Tool Unit := do
  let words := match words with
    | word :: rest =>
      if word.startsWith "-" && isDigits (word.drop 1).toString then rest else words
    | [] => []
  let options : Options := {
    letters := "n:", long := [("adjustment", 'n')], inFront := true, misused := 125 }
  let (found, command) ← options.read words
  match Given.value? found "n" with
  | some text =>
    if (integer? text).isNone then Tool.fail s!"invalid adjustment {quoteText text}" 125
  | none => pure ()
  if command.isEmpty then Tool.printLine "0"
  else become command (← get).bindings quoteName

def setsid (words : List Octets) : Tool Unit := do
  Tool.ask .lead
  let options : Options := {
    letters := "cfw", long := [("ctty", 'c'), ("fork", 'f'), ("wait", 'w')], inFront := true }
  let (_, command) ← options.read words
  if command.isEmpty then Tool.misuse "no command specified"
  become command (← get).bindings (fun name => s!"failed to execute {name}")

def stdbuf (words : List Octets) : Tool Unit :=
  runPlainly {
    letters := "i:o:e:", long := [("input", 'i'), ("output", 'o'), ("error", 'e')]
    inFront := true, misused := 125 } couldNotRun words

/-! ## Time limits -/

/-- Microseconds of a time with a unit behind it. -/
def interval? (text : Octets) : Option Nat :=
  let (digits, unit) := match text.toList.getLast? with
    | some 's' => ((text.dropEnd 1).toString, 1)
    | some 'm' => ((text.dropEnd 1).toString, 60)
    | some 'h' => ((text.dropEnd 1).toString, 3600)
    | some 'd' => ((text.dropEnd 1).toString, 86400)
    | _ => (text, 1)
  if text = "inf" || text = "infinity" then some (10 ^ 18)
  else (Decimal.parse? digits).bind fun d =>
    if d.digits < 0 then none
    else some (((d.digits.toNat * unit * 1000000) + 10 ^ d.places - 1) / 10 ^ d.places)

def signalOf? (text : Octets) : Option Nat :=
  if isDigits text then text.toNat?.filter (· ≤ Host.Signal.count)
  else
    let upper := text.toUpper
    Host.Signal.ofName? (if upper.startsWith "SIG" then (upper.drop 3).toString else upper)

def killSelf (signal : Nat) : Tool Unit := do
  Tool.flush
  let (id, _) ← Tool.ask .identity
  let _ ← Tool.ask (.dispose signal .standard)
  let _ ← Tool.ask (.kill id signal)

def statusOfEnding : Ending → Nat
  | .exited status => status
  | .killed signal => 128 + signal

def timeout (words : List Octets) : Tool Unit := do
  let options : Options := {
    letters := "fk:ps:v"
    long := [("foreground", 'f'), ("kill-after", 'k'), ("preserve-status", 'p'), ("signal", 's'),
      ("verbose", 'v')]
    inFront := true, misused := 125 }
  let (found, operands) ← options.read words
  let read (text : Octets) : Tool Nat :=
    match interval? text with
    | some time => pure time
    | none => Tool.misuse s!"invalid time interval {quoteText text}" 125
  let second? ← match Given.value? found "k" with
    | some text => do
      let time ← read text
      pure (some time)
    | none => pure none
  let signal ← match Given.value? found "s" with
    | none => pure Host.Signal.terminate
    | some text => match signalOf? text with
      | some signal => pure signal
      | none => Tool.misuse s!"{quoteText text}: invalid signal" 125
  match operands with
  | [] | [_] =>
    let name := (← get).name
    Tool.tell s!"Try '{name} --help' for more information.\n"
    throw 125
  | time :: command =>
    let time ← read time
    let bindings := (← get).bindings
    if !Given.has found "f" then Tool.ask .lead
    let child ← startChild (become command bindings couldNotRun)
    let send (signal : Nat) : Tool Unit := do
      if Given.has found "v" then
        let name := Host.Signal.name signal
        let shown := quoteName (command.headD "")
        Tool.warn s!"sending signal {name} to command {shown}"
      let _ ← Tool.ask (.kill child signal)
      if !Given.has found "f" then
        let _ ← Tool.ask (.dispose signal .ignored)
        let _ ← Tool.ask (.kill 0 signal)
    let start : Nat ← Tool.ask .clock
    let patience : Host.Patience := if time = 0 then .untilEnded else .till (start + time)
    match ← Tool.ask (.await (some child) patience) with
    | .ok (some (_, .exited status)) => throw status
    | .ok (some (_, .killed signal)) =>
      killSelf signal
      throw (128 + signal)
    | _ =>
      send signal
      let now : Nat ← Tool.ask .clock
      let patience : Host.Patience := match second? with
        | some time => if time = 0 then .untilEnded else .till (now + time)
        | none => .untilEnded
      let ending ← match ← Tool.ask (.await (some child) patience) with
        | .ok (some (_, ending)) => pure ending
        | _ =>
          send Host.Signal.kill
          awaitChild child
      match ending with
      | .killed 9 => throw 137
      | ending =>
        if Given.has found "p" then throw (statusOfEnding ending) else throw 124

def sleep (words : List Octets) : Tool Unit := do
  let (_, operands) ← Options.read {} words
  if operands.isEmpty then Tool.misuse "missing operand"
  let times := operands.map fun text => (text, interval? text)
  for (text, time?) in times do
    if time?.isNone then Tool.warn s!"invalid time interval {quoteText text}"
  if times.any fun (_, time?) => time?.isNone then
    let name := (← get).name
    Tool.tell s!"Try '{name} --help' for more information.\n"
    throw 1
  Tool.ask (.sleep ((times.filterMap (·.2)).foldl (· + ·) 0))

/-! ## Signals -/

def showSignals : Tool Unit := do
  let names := Host.Signal.table.map (·.2)
  Tool.printLine (String.intercalate " " names)

def sendSignal (signal : Nat) (targets : List Octets) : Tool Unit := do
  for target in targets do
    match integer? target with
    | none => Tool.fail s!"failed to parse argument: {quoteText target}"
    | some id =>
      match ← Tool.ask (.kill id signal) with
      | .ok _ => pure ()
      | .error fault => Tool.complain s!"({target}): {fault.text}"

def kill (words : List Octets) : Tool Unit := do
  let named (text : Octets) (targets : List Octets) : Tool Unit :=
    match signalOf? text with
    | some signal => sendSignal signal targets
    | none => Tool.fail s!"unknown signal name {text}"
  match words with
  | [] => Tool.misuse "not enough arguments"
  | ["-l"] | ["-L"] => showSignals
  | "-l" :: rest =>
    for text in rest do
      match text.toNat? with
      | some n => Tool.printLine (Host.Signal.name (n % 128))
      | none => match signalOf? text with
        | some n => Tool.printLine (toString n)
        | none => Tool.complain s!"unknown signal name {text}"
  | "-s" :: text :: rest => named text rest
  | "--" :: rest => sendSignal Host.Signal.terminate rest
  | word :: rest =>
    if word.startsWith "-" && !rest.isEmpty then named (word.drop 1).toString rest
    else sendSignal Host.Signal.terminate (word :: rest)

/-! ## Programs with words from the input -/

/-- How words are read from the input. -/
structure WordStyle where
  /-- what ends a word; without it blanks do, and quotes count -/
  delimiter? : Option Char := none
  /-- each line is a word -/
  byLine : Bool := false
  finish? : Option Octets := none

/-- The words of an input, each with the number of the line it ends; or the quote that has
no end. -/
def inputWords (byLine : Bool) : (fuel : Nat) → Quoting → List Char → (word? : Option Octets) →
    (line : Nat) → List (Octets × Nat) → Except Char (List (Octets × Nat))
  | 0, _, _, word?, line, taken => .ok ((word?.toList.map (·, line)) ++ taken)
  | _, quoting, [], word?, line, taken =>
    match quoting with
    | .single => .error '\x27'
    | .double => .error '"'
    | .outside => .ok ((word?.toList.map (·, line)) ++ taken)
  | fuel + 1, quoting, c :: rest, word?, line, taken =>
    let word := word?.getD ""
    let goOn (quoting : Quoting) : Except Char (List (Octets × Nat)) :=
      inputWords byLine fuel quoting rest (some word) line taken
    match quoting with
    | .single =>
      if c = '\x27' then goOn .outside
      else if c = '\n' then .error '\x27'
      else inputWords byLine fuel quoting rest (some (word.push c)) line taken
    | .double =>
      if c = '"' then goOn .outside
      else if c = '\n' then .error '"'
      else inputWords byLine fuel quoting rest (some (word.push c)) line taken
    | .outside =>
      if c = '\n' then
        inputWords byLine fuel quoting rest none (line + 1) ((word?.toList.map (·, line)) ++ taken)
      else if c = ' ' || c = '\t' then
        if byLine then
          inputWords byLine fuel quoting rest (word?.map (·.push c)) line taken
        else
          inputWords byLine fuel quoting rest none line ((word?.toList.map (·, line)) ++ taken)
      else if c = '\x27' then goOn .single
      else if c = '"' then goOn .double
      else if c = '\\' then
        match rest with
        | d :: rest => inputWords byLine fuel quoting rest (some (word.push d)) line taken
        | [] => .ok ((word?.toList.map (·, line)) ++ taken)
      else inputWords byLine fuel quoting rest (some (word.push c)) line taken

/-- Words in groups that are small enough: in number, in lines, and in size. -/
def groupWords (most? lines? : Option Nat) (size : Nat) : List (Octets × Nat) →
    (group : List (Octets × Nat)) → (weight : Nat) → List (List Octets)
  | [], group, _ => if group.isEmpty then [] else [(group.reverse.map (·.1))]
  | (word, line) :: rest, group, weight =>
    let isFull := (most?.map fun n => decide (n ≤ group.length)).getD false
    let startLine := ((group.getLast?).map (·.2)).getD line
    let isOver := (lines?.map fun n => decide (n ≤ line - startLine)).getD false
    let isHeavy := size < weight + word.length + 1
    if !group.isEmpty && (isFull || isOver || isHeavy) then
      group.reverse.map (·.1) :: groupWords most? lines? size rest [(word, line)] (word.length + 1)
    else groupWords most? lines? size rest ((word, line) :: group) (weight + word.length + 1)

def replaceAll (text mark word : Octets) : Octets :=
  if mark = "" then text else String.intercalate word (text.splitOn mark)

def xargs (words : List Octets) : Tool Unit := do
  let options : Options := {
    letters := "0a:d:E:e::I:i::L:l::n:oP:prs:tx"
    long := [("null", '0'), ("arg-file", 'a'), ("delimiter", 'd'), ("replace", 'i'),
      ("max-lines", 'l'), ("max-args", 'n'), ("max-procs", 'P'), ("no-run-if-empty", 'r'),
      ("max-chars", 's'), ("verbose", 't'), ("exit", 'x'), ("interactive", 'p'), ("open-tty", 'o')]
    words := [("show-limits", .none), ("process-slot-var", .required)]
    inFront := true }
  let (found, operands) ← options.read words
  let command := if operands.isEmpty then ["echo"] else operands
  let read ← match Given.value? found "a" with
    | some path => match ← Tool.readFile path with
      | .ok text => pure text
      | .error fault =>
        Tool.fail s!"Cannot open input file {quoteName path}: {fault.text}"
    | none => match ← Tool.readAll 0 with
      | .ok text => pure text
      | .error _ => pure ""
  let mark? : Option Octets := match Given.last? found ["I", "i"] with
    | some g => some (if g.hasValue && g.value ≠ "" then g.value else "\x7b\x7d")
    | none => none
  let delimiter? : Option Char := match Given.last? found ["0", "d"] with
    | some g =>
      if g.name = "0" then some '\x00'
      else ((richEscapes.replaceIn g.value).1.toList.head?)
    | none => none
  let all ← match delimiter? with
    | some c => pure ((linesOf c read).map fun word => (word, 0))
    | none =>
      match inputWords mark?.isSome (read.length + 1) .outside read.toList none 0 [] with
      | .ok taken => pure taken.reverse
      | .error quote =>
        let kind := if quote = '"' then "double" else "single"
        Tool.fail <| s!"unmatched {kind} quote; by default quotes are special to xargs " ++
          "unless you use the -0 option"
  let all := match Given.last? found ["E", "e"] with
    | some g => if g.value = "" then all else all.takeWhile fun (word, _) => word ≠ g.value
    | none => all
  let number (names : List String) (usual : Option Nat) : Tool (Option Nat) := do
    match Given.last? found names with
    | none => return none
    | some g => match g.value.toNat?, usual with
      | some 0, _ => Tool.misuse s!"value {g.value} for -{g.name} option should be >= 1"
      | some n, _ => return some n
      | none, _ =>
        if g.value = "" && usual.isSome then return usual
        let shown := "\"" ++ g.value ++ "\""
        Tool.fail s!"invalid number {shown} for -{g.name} option"
  let most? ← number ["n"] none
  let lines? ← number ["L", "l"] (some 1)
  let size := ((← number ["s"] none).getD 131072)
  let runs : List (List Octets) := match mark? with
    | some mark => all.map fun (word, _) => command.map fun part => replaceAll part mark word
    | none =>
      let front := command.foldl (fun size part => size + part.length + 1) 0
      let groups := groupWords most? lines? (size - front) all [] 0
      let groups := if groups.isEmpty && !Given.has found "r" then [[]] else groups
      groups.map (command ++ ·)
  let bindings := (← get).bindings
  let mut failed := false
  for run in runs do
    if Given.has found "t" then Tool.tell (String.intercalate " " (run.map showName) ++ "\n")
    let child ← startChild do
      match ← Tool.ask (.openFile "/dev/null" Host.Access.reading) with
      | .ok descriptor =>
        let _ ← Tool.ask (.copyTo descriptor 0)
        if descriptor ≠ 0 then
          let _ ← Tool.ask (.close descriptor)
      | .error _ => pure ()
      become run bindings showName
    let name := command.headD ""
    match ← awaitChild child with
    | .exited 255 => Tool.fail s!"{name}: exited with status 255; aborting" 124
    | .exited 126 => throw 126
    | .exited 127 => throw 127
    | .exited status => if status ≠ 0 then failed := true
    | .killed signal => Tool.fail s!"{name}: terminated by signal {signal}" 125
  if failed then throw 123

end AssetWatch.Utility
