import AssetWatch.Shell.Builtin.Basic

/-!
# Builtins for variables, parameters and options
-/

namespace AssetWatch.Shell.Builtin

/-! ## Variables -/

/-- An assignment as one word: its name, and its value if there is one. -/
def splitAssignment (word : Octets) : Octets × Option Octets :=
  let (name, behind) := word.toList.span (· ≠ '=')
  (String.ofList name, if behind.isEmpty then none else some (String.ofList (behind.drop 1)))

/-- Changes what a variable is; a value is given first. -/
def mark (change : Variable → Variable) (word : Octets) : Sh Unit := do
  match splitAssignment word with
  | (name, some value) =>
    setVariable name value
    modify fun s => match s.binding? name with
      | some v => s.put (change v)
      | none => s
  | (name, none) =>
    match (← get).binding? name with
    | some v => modify (·.put (change v))
    | none =>
      checkVariable name
      modify (·.put (change { name, value? := none }))

/-- Marks variables, or lists those that are marked. -/
def markAll (pass : Variable → Bool) (change : Variable → Variable) (words : List Octets) :
    Sh Nat := do
  let (found, operands) ← readOptions "p" words
  if found.isEmpty && !operands.isEmpty then
    for word in operands do mark change word
    return 0
  else listVariables (words.headD "") pass

/-- Variables that go back to what they were when the function ends. -/
def makeLocal (words : List Octets) : Sh Nat := do
  if (← get).frames.isEmpty then Sh.fail "not in a function"
  for word in words.drop 1 do
    if word = "-" then
      let flags := String.ofList (← get).flags
      modify fun s => match s.frames with
        | frame :: frames =>
          { s with frames := (("-", some { name := "-", value? := some flags }) :: frame) :: frames }
        | [] => s
    else
      let (name, value?) := splitAssignment word
      saveVariable name
      match value?, (← get).binding? name with
      | some value, _ => setVariable name value
      | none, some _ => pure ()
      | none, none =>
        checkVariable name
        modify (·.put { name, value? := none })
  return 0

def unset (words : List Octets) : Sh Nat := do
  let (found, operands) ← readOptions "vf" words
  let isFunction := (found.getLast?.map (·.1)) == some 'f'
  for name in operands do
    if isFunction then
      modify fun s => { s with functions := s.functions.filter (·.name != name) }
    else unsetVariable name
  return 0

/-! ## Parameters -/

def setParameters (parameters : List Octets) : Sh Unit := modify fun s =>
  { s with parameters, scan := {} }

def shift (words : List Octets) : Sh Nat := do
  let count ← match words.drop 1 with
    | [] => pure 1
    | word :: _ => number word
  let s ← get
  if s.parameters.length < count then Sh.fail "can't shift that many"
  setParameters (s.parameters.drop count)
  return 0

/-! ## Options -/

/-- The names of options with their letters. -/
def optionNames : List (String × Char) := [
  ("errexit", 'e'), ("noglob", 'f'), ("ignoreeof", 'I'), ("interactive", 'i'), ("monitor", 'm'),
  ("noexec", 'n'), ("stdin", 's'), ("xtrace", 'x'), ("verbose", 'v'), ("vi", 'V'),
  ("emacs", 'E'), ("noclobber", 'C'), ("allexport", 'a'), ("notify", 'b'), ("nounset", 'u'),
  ("privileged", 'p'),   ("nolog", 'l'), ("debug", 'g')]

def setFlag (flag : Char) (value : Bool) : Sh Unit := modify fun s =>
  { s with flags := if value then flag :: s.flags.erase flag else s.flags.filter (· ≠ flag) }

def setOption (flag : Char) (value : Bool) : Sh Unit := do
  if flagOrder.contains flag then setFlag flag value else Sh.fail s!"Illegal option -{flag}"

def setOptionNamed (name : Octets) (value : Bool) : Sh Unit := do
  match optionNames.lookup name with
  | some flag => setFlag flag value
  | none => Sh.fail s!"Illegal option -o {name}"

def listOptions (value : Bool) : Sh Nat := do
  let s ← get
  if value then
    let lines := optionNames.map fun (name, flag) =>
      let gap := String.ofList (List.replicate (16 - name.length) ' ')
      let state := if s.has flag then "on" else "off"
      s!"{name}{gap}{state}\n"
    print ("Current option settings\n" ++ String.join lines)
  else
    print <| String.join <| optionNames.map fun (name, flag) =>
      let sign := if s.has flag then "-" else "+"
      s!"set {sign}o {name}\n"

/-- Sets the options that letters name, and gives what is left of the words behind them. -/
def setLetters (value : Bool) (onWord : Char → Option (Sh Unit)) :
    List Char → List Octets → Sh (List Octets)
  | [], rest => pure rest
  | 'o' :: more, rest => do
    match rest with
    | [] =>
      let _ ← listOptions value
      setLetters value onWord more []
    | name :: rest =>
      setOptionNamed name value
      setLetters value onWord more rest
  | c :: more, rest => do
    match onWord c with
    | some act => act
    | none => setOption c value
    setLetters value onWord more rest

/-- Sets options; the parameters are replaced if there are operands, or a sign of it. -/
def setWords : (fuel : Nat) → List Octets → Sh Unit
  | 0, _ => pure ()
  | fuel + 1, words =>
    match words with
    | [] => pure ()
    | word :: rest =>
      match word.toList with
      | ['-'] => do
        setFlag 'x' false
        setFlag 'v' false
        if rest.isEmpty then pure () else setParameters rest
      | ['-', '-'] => setParameters rest
      | '-' :: letters => do
        let rest ← setLetters true (fun _ => none) letters rest
        setWords fuel rest
      | '+' :: letters => do
        let rest ← setLetters false (fun _ => none) letters rest
        setWords fuel rest
      | _ => setParameters (word :: rest)

def setBuiltin (words : List Octets) : Sh Nat := do
  match words.drop 1 with
  | [] => listVariables "" fun _ => true
  | operands =>
    setWords (operands.length + 1) operands
    return 0

/-! ## Scanning options -/

/-- What a step of `getopts` finds. -/
inductive Scanned
  | finished
  | option (letter : Char) (value? : Option Octets)
  | unknown (letter : Char)
  | noValue (letter : Char)

/-- The next option of the words, and how far the scan has come then. -/
def scanOption (letters : List Char) (words : List Octets) (scan : OptionScan) :
    Scanned × OptionScan :=
  let before := if scan.index ≤ 1 || scan.offset = 0 then []
    else ((words[scan.index - 2]?).getD "").toList.drop scan.offset
  let next (index : Nat) (letter : Char) (rest : List Char) (offset : Nat) :
      Scanned × OptionScan :=
    let within : OptionScan := { index, offset := if rest.isEmpty then 0 else offset }
    match kindOf letters letter with
    | none => (.unknown letter, within)
    | some false => (.option letter (some ""), within)
    | some true =>
      if !rest.isEmpty then (.option letter (some (String.ofList rest)), { index })
      else match words[index - 1]? with
        | some value => (.option letter (some value), { index := index + 1 })
        | none => (.noValue letter, { index })
  match before with
  | letter :: rest => next scan.index letter rest (scan.offset + 1)
  | [] =>
    match (words[scan.index - 1]?).map String.toList with
    | some ['-', '-'] => (.finished, { index := scan.index + 1 })
    | some ('-' :: letter :: rest) => next (scan.index + 1) letter rest 2
    | _ => (.finished, { index := scan.index })

def getOptions (words : List Octets) : Sh Nat := do
  match words.drop 1 with
  | optionText :: name :: operands =>
    let s ← get
    let operands := if operands.isEmpty then s.parameters else operands
    let scan := if operands.length + 1 < s.scan.index then {} else s.scan
    let isSilent := optionText.startsWith ":"
    let letters := (if isSilent then optionText.drop 1 else optionText.drop 0).toString.toList
    let (scanned, after) := scanOption letters operands scan
    let shown ← match scanned with
      | .finished => pure '?'
      | .option letter value? =>
        setVariable "OPTARG" (value?.getD "")
        pure letter
      | .unknown letter =>
        if isSilent then setVariable "OPTARG" letter.toString
        else
          Sh.warnPlain s!"Illegal option -{letter}"
          unsetVariable "OPTARG"
        pure '?'
      | .noValue letter =>
        if isSilent then
          setVariable "OPTARG" letter.toString
          pure ':'
        else
          Sh.warnPlain s!"No arg for -{letter} option"
          unsetVariable "OPTARG"
          pure '?'
    setVariable "OPTIND" (toString after.index)
    setVariable name shown.toString
    modify fun s => { s with scan := after }
    return match scanned with
      | .finished => 1
      | _ => 0
  | _ => Sh.fail "Usage: getopts optstring var [arg...]"

/-! ## Reading -/

/-- Characters with whether each was escaped, the last in front, and whether the line had an
end. -/
def readLine (raw : Bool) : (fuel : Nat) → (escaped : Bool) → List (Char × Bool) →
    Sh (List (Char × Bool) × Bool)
  | 0, _, taken => pure (taken, false)
  | fuel + 1, escaped, taken => do
    match ← Sh.ask (.read 0 1) with
    | .error _ => return (taken, false)
    | .ok bytes =>
      match bytes.toList with
      | [] => return (taken, false)
      | b :: _ =>
        let c := Octets.charOf b
        if c = '\x00' then readLine raw fuel escaped taken
        else if escaped then
          readLine raw fuel false (if c = '\n' then taken else (c, true) :: taken)
        else if c = '\\' && !raw then readLine raw fuel true taken
        else if c = '\n' then return (taken, true)
        else readLine raw fuel false ((c, false) :: taken)

namespace Line

abbrev Chars := List (Char × Bool)

def isBlankIn (separators : List Char) (c : Char × Bool) : Bool :=
  !c.2 && separators.contains c.1 && (c.1 = ' ' || c.1 = '\t' || c.1 = '\n')

def isSeparatorIn (separators : List Char) (c : Char × Bool) : Bool :=
  !c.2 && separators.contains c.1

def textOf (cs : Chars) : Octets := String.ofList (cs.map (·.1))

/-- The first field, and what stands behind its separator. -/
def field (separators : List Char) (cs : Chars) : Chars × Chars :=
  let (found, rest) := cs.span fun c => !isSeparatorIn separators c
  let rest := rest.dropWhile (isBlankIn separators)
  match rest with
  | c :: more =>
    if isSeparatorIn separators c then (found, more.dropWhile (isBlankIn separators))
    else (found, rest)
  | [] => (found, [])

/-- How far the search for the end of a field has come. -/
structure Ending where
  position : Nat := 0
  /-- where the field ends, if nothing but blanks and one separator has come since -/
  cut? : Option Nat := none
  /-- a separator may still belong to the end -/
  afterBlank : Bool := false
  /-- a separator has come -/
  isOpen : Bool := false

/-- Escaped characters are passed over. -/
def Ending.step (separators : List Char) (e : Ending) (c : Char × Bool) : Ending :=
  let next := { e with position := e.position + 1 }
  if c.2 then next
  else if !e.isOpen then
    if isSeparatorIn separators c then
      { next with cut? := some e.position, afterBlank := isBlankIn separators c, isOpen := true }
    else next
  else if c.1 = ' ' || c.1 = '\t' || c.1 = '\n' then
    { next with cut? := some (e.cut?.getD e.position) }
  else if isSeparatorIn separators c && e.afterBlank then { next with afterBlank := false }
  else { next with cut? := none, afterBlank := false }

/-- Fields for so many names; the last takes what is left. -/
def fields (separators : List Char) : (count : Nat) → Chars → List Octets
  | 0, _ => []
  | 1, cs =>
    match (cs.foldl (Ending.step separators) {}).cut? with
    | some length => [textOf (cs.take length)]
    | none => [textOf cs]
  | count + 1, cs =>
    let (found, rest) := field separators cs
    textOf found :: fields separators count rest

end Line

def readVariables (words : List Octets) : Sh Nat := do
  let (found, names) ← readOptions "p:r" words
  let raw := found.any (·.1 = 'r')
  if names.isEmpty then Sh.fail "arg count"
  let (taken, ended) ← readLine raw Reader.enough false []
  let separators := (← get).separators.toList
  let line := taken.reverse.dropWhile (Line.isBlankIn separators)
  for (name, value) in names.zip (Line.fields separators names.length line) do
    setVariable name value
  return if ended then 0 else 1

def forVariables : List Builtin := [
  { name := "export", isSpecial := true, assigns := true
    run := fun _ => markAll (·.isExported) fun v => { v with isExported := true } },
  { name := "readonly", isSpecial := true, assigns := true
    run := fun _ => markAll (·.isReadOnly) fun v => { v with isReadOnly := true } },
  { name := "local", isSpecial := true, assigns := true, run := fun _ => makeLocal },
  { name := "unset", isSpecial := true, run := fun _ => unset },
  { name := "shift", isSpecial := true, run := fun _ => shift },
  { name := "set", isSpecial := true, run := fun _ => setBuiltin },
  { name := "getopts", run := fun _ => getOptions },
  { name := "read", run := fun _ => readVariables }]

end AssetWatch.Shell.Builtin
