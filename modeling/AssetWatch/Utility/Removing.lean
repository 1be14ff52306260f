import AssetWatch.Power
import AssetWatch.Utility.Calendar
import AssetWatch.Utility.Places

/-!
# Making and removing entries
-/

namespace AssetWatch.Utility

open Host (Access Edit Fault)

def mkdir (words : List Octets) : Tool Unit := do
  let (found, paths) ← Options.read {
    letters := "pm:vZ"
    long := [("parents", 'p'), ("mode", 'm'), ("verbose", 'v')] } words
  if paths.isEmpty then Tool.misuse "missing operand"
  let mask : Nat ← Tool.ask (.mask none)
  let mode? ← match Given.value? found "m" with
    | none => pure none
    | some text => match Mode.parse? text with
      | some m => pure (some (m.apply true mask 0o777))
      | none => Tool.fail s!"invalid mode {quoteText text}"
  let tell (path : Octets) : Tool Unit :=
    if Given.has found "v" then Tool.printLine s!"mkdir: created directory {quoteName path}"
    else pure ()
  for path in paths do
    if Given.has found "p" then
      match ← makeFolders 0o777 tell (stages path) with
      | .ok _ => match mode? with
        | some mode =>
          let _ ← edit (.setMode path mode)
        | none => pure ()
      | .error (place, fault) =>
        Tool.complain s!"cannot create directory {quoteName place}: {fault.text}"
    else match ← edit (.makeDirectory path 0o777) with
      | .ok _ =>
        tell path
        match mode? with
        | some mode =>
          let _ ← edit (.setMode path mode)
        | none => pure ()
      | .error fault => Tool.complain s!"cannot create directory {quoteName path}: {fault.text}"

/-- A path and the folders above it, from the inside. -/
def chain (path : Octets) : List Octets := (stages (dropSlashes path)).reverse

def rmdir (words : List Octets) : Tool Unit := do
  let (found, paths) ← Options.read {
    letters := "pv", long := [("parents", 'p'), ("verbose", 'v')]
    words := [("ignore-fail-on-non-empty", .none)] } words
  if paths.isEmpty then Tool.misuse "missing operand"
  let ignores := Given.has found "ignore-fail-on-non-empty"
  for path in paths do
    let mut going := true
    for place in if Given.has found "p" then chain path else [path] do
      if going then
        if Given.has found "v" then Tool.printLine s!"rmdir: removing directory, {quoteName place}"
        match ← edit (.removeDirectory place) with
        | .ok _ => pure ()
        | .error fault =>
          going := false
          if !(ignores && fault = .notEmpty) then
            Tool.complain s!"failed to remove {quoteName place}: {fault.text}"

/-- Removes what is at a path, with everything below. -/
def removeAll (force verbose : Bool) : (fuel : Nat) → Octets → Tool Bool
  | 0, _ => pure false
  | fuel + 1, path => do
    let refused (fault : Fault) : Tool Bool := do
      Tool.complain s!"cannot remove {quoteName path}: {fault.text}"
      return false
    match ← Tool.ask (.status path false) with
    | .error fault => if force && fault = .notFound then return true else refused fault
    | .ok st =>
      if st.kind ≠ .directory then
        match ← edit (.removeFile path) with
        | .ok _ =>
          if verbose then Tool.printLine s!"removed {quoteName path}"
          return true
        | .error fault => refused fault
      else
        let mut whole := true
        match ← Tool.ask (.list path) with
        | .ok names =>
          for name in names do
            if !(← removeAll force verbose fuel (within path name)) then whole := false
        | .error _ => pure ()
        if !whole then return false
        match ← edit (.removeDirectory path) with
        | .ok _ =>
          if verbose then Tool.printLine s!"removed directory {quoteName path}"
          return true
        | .error fault => refused fault

def rm (words : List Octets) : Tool Unit := do
  let (found, paths) ← Options.read {
    letters := "dfirRIv"
    long := [("force", 'f'), ("recursive", 'r'), ("dir", 'd'), ("verbose", 'v')]
    words := [("interactive", .optional), ("one-file-system", .none), ("no-preserve-root", .none),
      ("preserve-root", .optional)] } words
  let force := Given.has found "f"
  let verbose := Given.has found "v"
  let recursive := Given.has found "r" || Given.has found "R"
  if paths.isEmpty && !force then Tool.misuse "missing operand"
  for path in paths do
    let name := lastPiece path
    match ← Tool.ask (.status path false) with
    | .error fault =>
      let isGone := fault = .notFound || fault = .notDirectory
      if !(force && isGone) then
        Tool.complain s!"cannot remove {quoteName path}: {fault.text}"
    | .ok st =>
      if st.kind = .directory && !recursive then
        if Given.has found "d" then
          match ← edit (.removeDirectory path) with
          | .ok _ => if verbose then Tool.printLine s!"removed directory {quoteName path}"
          | .error fault => Tool.complain s!"cannot remove {quoteName path}: {fault.text}"
        else Tool.complain s!"cannot remove {quoteName path}: Is a directory"
      else if recursive && (name = "." || name = "..") then
        Tool.complain s!"refusing to remove '.' or '..' directory: skipping {quoteName path}"
      else if recursive && straight path = "/" && path.startsWith "/" then
        Tool.warn s!"it is dangerous to operate recursively on {quoteName path}"
        Tool.complain "use --no-preserve-root to override this failsafe"
      else
        let _ ← removeAll force verbose Tool.endless path

def unlinkFile (words : List Octets) : Tool Unit := do
  match (← Options.read {} words).2 with
  | [] => Tool.misuse "missing operand"
  | [path] =>
    match ← edit (.removeFile path) with
    | .ok _ => pure ()
    | .error fault => Tool.fail s!"cannot unlink {quoteName path}: {fault.text}"
  | _ :: extra :: _ => Tool.misuse s!"extra operand {quoteName extra}"

/-! ## Times, sizes and modes -/

def touch (words : List Octets) : Tool Unit := do
  let (found, paths) ← Options.read {
    letters := "acd:fhmr:t:"
    long := [("no-create", 'c'), ("date", 'd'), ("no-dereference", 'h'), ("reference", 'r')]
    words := [("time", .required)] } words
  let time? ← match Given.last? found ["d", "r", "t"] with
    | none => pure none
    | some g =>
      if g.name = "r" then
        match ← Tool.ask (.status g.value true) with
        | .ok st => pure (some st.modified)
        | .error fault =>
          Tool.fail s!"failed to get attributes of {quoteName g.value}: {fault.text}"
      else
        let time? := if g.name = "t" then stamp? g.value else dateTime? g.value
        match time? with
        | some time => pure (some time)
        | none => Tool.fail s!"invalid date format {quoteText g.value}"
  if paths.isEmpty then Tool.misuse "missing file operand"
  for path in paths do
    let creates := !Given.has found "c"
    let made ← if path = "-" then pure (.ok 1) else
      Tool.ask (.openFile path { writes := true, creates, mode := 0o666 })
    let opened := match made with
      | .ok descriptor => if path = "-" then none else some descriptor
      | .error _ => none
    let refused : Option Fault := match made with
      | .error fault => if fault = Fault.isDirectory then none else some fault
      | .ok _ => none
    match refused with
    | some fault =>
      if creates || fault ≠ Fault.notFound then
        Tool.complain s!"cannot touch {quoteName path}: {fault.text}"
    | none =>
      match ← edit (.setTime path time?) with
      | .ok _ => pure ()
      | .error fault =>
        if path ≠ "-" then Tool.complain s!"cannot touch {quoteName path}: {fault.text}"
    match opened with
    | some descriptor =>
      let _ ← Tool.ask (.close descriptor)
    | none => pure ()

def truncate (words : List Octets) : Tool Unit := do
  let (found, paths) ← Options.read {
    letters := "cor:s:"
    long := [("no-create", 'c'), ("reference", 'r'), ("size", 's')] } words
  let text ← match Given.value? found "s" with
    | some text => pure text
    | none => Tool.misuse "you must specify either '--size' or '--reference'"
  if paths.isEmpty then Tool.misuse "missing file operand"
  let sign := (text.toList.headD ' ')
  let digits := if "+-<>/%".toList.contains sign then (text.drop 1).toString else text
  let n ← match sized? digits with
    | some n => pure n
    | none => Tool.fail s!"Invalid number: {quoteText text}"
  for path in paths do
    match ← Tool.ask (.openFile path { writes := true, creates := !Given.has found "c" }) with
    | .error fault =>
      if !(Given.has found "c" && fault = .notFound) then
        Tool.complain s!"cannot open {quoteName path} for writing: {fault.text}"
    | .ok descriptor =>
      let size := ((← Tool.statusOf? path true).map (·.size)).getD 0
      let size := match sign with
        | '+' => size + n
        | '-' => size - n
        | '<' => min size n
        | '>' => max size n
        | _ => n
      let _ ← edit (.truncate path size)
      let _ ← Tool.ask (.close descriptor)

/-- Changes modes, below directories too if `deep`. -/
def changeModes (mode : Mode) (mask : Nat) (deep : Bool) (tell : Octets → Nat → Nat → Tool Unit) :
    (fuel : Nat) → (isOperand : Bool) → Octets → Tool Unit
  | 0, _, _ => pure ()
  | fuel + 1, isOperand, path => do
    match ← Tool.ask (.status path isOperand) with
    | .error fault => Tool.complain s!"cannot access {quoteName path}: {fault.text}"
    | .ok st =>
      if st.kind ≠ .link then
        let new := mode.apply (st.kind = .directory) mask st.mode
        match ← edit (.setMode path new) with
        | .ok _ => tell path st.mode new
        | .error fault =>
          Tool.complain s!"changing permissions of {quoteName path}: {fault.text}"
        if deep && st.kind = .directory then
          match ← Tool.ask (.list path) with
          | .ok names =>
            for name in names do
              changeModes mode mask deep tell fuel false (within path name)
          | .error _ => pure ()

/-- Rights as letters. -/
def rightsText (mode : Nat) : Octets :=
  let three (shift special : Nat) (letter : Char) : List Char :=
    let bits := mode >>> shift
    let run := bits &&& 1 ≠ 0
    [if bits &&& 4 ≠ 0 then 'r' else '-', if bits &&& 2 ≠ 0 then 'w' else '-',
      if mode &&& special ≠ 0 then if run then letter else letter.toUpper
      else if run then 'x' else '-']
  String.ofList (three 6 0o4000 's' ++ three 3 0o2000 's' ++ three 0 0o1000 't')

def octalText (width n : Nat) : Octets :=
  let digits := String.ofList (Nat.toDigits 8 n)
  replicate (width - digits.length) '0' ++ digits

/-- Words in which a mode that begins with a dash is no option. -/
def protectMode (words : List Octets) : List Octets :=
  let isMode (word : Octets) : Bool :=
    word.startsWith "-" && word.length ≥ 2 && (word.drop 1).all fun c => "rwxXst,+-=ugoa".toList.contains c
  match words.findIdx? isMode with
  | some i =>
    let front := words.take i
    if front.all fun w => w.startsWith "-" then front ++ "--" :: words.drop i else words
  | none => words

def chmod (words : List Octets) : Tool Unit := do
  let (found, operands) ← Options.read {
    letters := "cfvR"
    long := [("changes", 'c'), ("silent", 'f'), ("quiet", 'f'), ("verbose", 'v'),
      ("recursive", 'R')]
    words := [("reference", .required), ("no-preserve-root", .none), ("preserve-root", .none)]
    } (protectMode words)
  let mask : Nat ← Tool.ask (.mask none)
  let tell (path : Octets) (old new : Nat) : Tool Unit := do
    let shown (m : Nat) : Octets := s!"{octalText 4 m} ({rightsText m})"
    if old ≠ new && (Given.has found "c" || Given.has found "v") then
      Tool.printLine s!"mode of {quoteName path} changed from {shown old} to {shown new}"
    else if old = new && Given.has found "v" then
      Tool.printLine s!"mode of {quoteName path} retained as {shown new}"
  let (mode, paths) ← match Given.value? found "reference" with
    | some path =>
      match ← Tool.ask (.status path true) with
      | .ok st => pure (Mode.number st.mode true, operands)
      | .error fault =>
        Tool.fail s!"failed to get attributes of {quoteName path}: {fault.text}"
    | none => match operands with
      | [] => Tool.misuse "missing operand"
      | [text] => Tool.misuse s!"missing operand after {quoteText text}"
      | text :: paths => match Mode.parse? text with
        | some mode => pure (mode, paths)
        | none => Tool.misuse s!"invalid mode: {quoteText text}"
  for path in paths do
    changeModes mode mask (Given.has found "R") tell Tool.endless true path

/-- Owners are not kept; only missing files are told of. -/
def chown (words : List Octets) : Tool Unit := do
  let (_, operands) ← Options.read {
    letters := "cfhvRHLP"
    long := [("recursive", 'R'), ("verbose", 'v'), ("changes", 'c')]
    words := [("reference", .required), ("from", .required)] } words
  match operands with
  | [] => Tool.misuse "missing operand"
  | [text] => Tool.misuse s!"missing operand after {quoteText text}"
  | _ :: paths =>
    for path in paths do
      match ← Tool.ask (.status path true) with
      | .ok _ => pure ()
      | .error fault => Tool.complain s!"cannot access {quoteName path}: {fault.text}"

/-- A name from a template, with letters in the place of its last run of marks. -/
def filledTemplate (template suffix : Octets) (seed : Nat) : Option Octets :=
  let cs := template.toList.reverse
  let marks := (cs.takeWhile (· = 'X')).length
  if marks < 3 then none
  else
    let letters := "abcdefghijklmnopqrstuvwxyzABCDEFGHIJKLMNOPQRSTUVWXYZ0123456789".toList.toArray
    let fill := (List.range marks).map fun i =>
      (letters[(seed / 62 ^ (i % 4) + i * 17 + seed * 7) % 62]?).getD 'x'
    some (String.ofList ((cs.drop marks).reverse ++ fill) ++ suffix)

def mktemp (words : List Octets) : Tool Unit := do
  let (found, operands) ← Options.read {
    letters := "dqup:t"
    long := [("directory", 'd'), ("dry-run", 'u'), ("quiet", 'q')]
    words := [("tmpdir", .optional), ("suffix", .required)] } words
  let template := operands.headD "tmp.XXXXXXXXXX"
  match operands with
  | _ :: _ :: _ => Tool.misuse "too many templates"
  | _ => pure ()
  let inTemporary := operands.isEmpty || Given.has found "t" || Given.has found "p" ||
    Given.has found "tmpdir"
  let own := (((← get).bindings).lookup "TMPDIR").getD "/tmp"
  let folder := match Given.last? found ["p", "tmpdir"] with
    | some g => if g.value = "" then own else g.value
    | none => own
  let (id, _) ← Tool.ask .identity
  let now : Nat ← Tool.ask .clock
  let suffix := (Given.value? found "suffix").getD ""
  match filledTemplate template suffix (id * 1009 + now) with
  | none => Tool.fail s!"too few X's in template {quoteText template}"
  | some name =>
    let path := if inTemporary then within folder name else name
    let kind := if Given.has found "d" then "directory" else "file"
    let made ←
      if Given.has found "u" then pure (.ok ())
      else if Given.has found "d" then edit (.makeDirectory path 0o700)
      else match ← Tool.ask (.openFile path
          { writes := true, creates := true, excludes := true, mode := 0o600 }) with
        | .ok descriptor => Tool.ask (.close descriptor)
        | .error fault => pure (.error fault)
    match made with
    | .ok _ => Tool.printLine path
    | .error fault =>
      let shown := quoteName (if inTemporary then within folder template else template)
      Tool.fail s!"failed to create {kind} via template {shown}: {fault.text}"

end AssetWatch.Utility
