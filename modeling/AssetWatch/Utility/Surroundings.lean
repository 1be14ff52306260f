import AssetWatch.Utility.Launching
import AssetWatch.Utility.Listing

/-!
# Where and when programs run

The user is always the one who may do everything, and the clock shows universal time.
-/

namespace AssetWatch.Utility

/-! ## Dates -/

/-- The format of a date with so much of the time of day. -/
def isoFormat (precision : Octets) : Octets :=
  match precision with
  | "hours" => "%Y-%m-%dT%H%:z"
  | "minutes" => "%Y-%m-%dT%H:%M%:z"
  | "seconds" => "%Y-%m-%dT%H:%M:%S%:z"
  | "ns" => "%Y-%m-%dT%H:%M:%S,%N%:z"
  | _ => "%Y-%m-%d"

def date (words : List Octets) : Tool Unit := do
  let (found, operands) ← Options.read {
    letters := "d:f:I::r:Rs:u"
    long := [("date", 'd'), ("file", 'f'), ("iso-8601", 'I'), ("reference", 'r'),
      ("rfc-email", 'R'), ("set", 's'), ("utc", 'u'), ("universal", 'u')]
    words := [("rfc-3339", .required)] } words
  let now : Nat ← Tool.ask .clock
  let time ← match Given.last? found ["d", "r"] with
    | none => pure now
    | some g =>
      if g.name = "r" then
        match ← Tool.ask (.status g.value true) with
        | .ok st => pure st.modified
        | .error fault => Tool.fail s!"{showName g.value}: {fault.text}"
      else match written? now g.value with
        | some time => pure time
        | none => Tool.fail s!"invalid date {quoteText g.value}"
  let format ← match operands with
    | [] => match Given.last? found ["I", "R", "rfc-3339"] with
      | some g =>
        if g.name = "R" then pure "%a, %d %b %Y %H:%M:%S %z"
        else if g.name = "I" then pure (isoFormat g.value)
        else pure (if g.value = "date" then "%Y-%m-%d" else "%Y-%m-%d %H:%M:%S%:z")
      | none => pure "%a %b %e %H:%M:%S %Z %Y"
    | [text] =>
      if text.startsWith "+" then pure (text.drop 1).toString
      else Tool.fail s!"invalid date {quoteText text}"
    | _ :: extra :: _ => Tool.misuse s!"extra operand {quoteName extra}"
  Tool.printLine (dateText format time)

/-! ## The user and the machine -/

def id (words : List Octets) : Tool Unit := do
  let (found, _) ← Options.read {
    letters := "agGnruzZ"
    long := [("group", 'g'), ("groups", 'G'), ("name", 'n'), ("real", 'r'), ("user", 'u')] } words
  let has := Given.has found
  if has "u" || has "g" || has "G" then Tool.printLine (if has "n" then "root" else "0")
  else Tool.printLine "uid=0(root) gid=0(root) groups=0(root)"

/-- A utility that tells one thing. -/
def tell (text : Octets) (words : List Octets) : Tool Unit := do
  let (_, operands) ← Options.read {} words
  match operands with
  | extra :: _ => Tool.misuse s!"extra operand {quoteName extra}"
  | [] => Tool.printLine text

def whoami : List Octets → Tool Unit := tell "root"

def arch : List Octets → Tool Unit := tell "x86_64"

def groups (words : List Octets) : Tool Unit := do
  let (_, operands) ← Options.read {} words
  if operands.isEmpty then Tool.printLine "root"
  else for name in operands do
    if name = "root" then Tool.printLine "root : root"
    else Tool.complain s!"{quoteText name}: no such user"

def nproc (words : List Octets) : Tool Unit := do
  let _ ← Options.read { words := [("all", .none), ("ignore", .required)] } words
  Tool.printLine "4"

def hostname (words : List Octets) : Tool Unit := do
  let _ ← Options.read { letters := "fsidaAIy" } words
  Tool.printLine "localhost"

def tty (words : List Octets) : Tool Unit := do
  let (found, _) ← Options.read {
    letters := "s", long := [("silent", 's'), ("quiet", 's')], misused := 2 } words
  if !Given.has found "s" then Tool.printLine "not a tty"
  Tool.setStatus 1

def uname (words : List Octets) : Tool Unit := do
  let (found, operands) ← Options.read {
    letters := "asnrvmpio"
    long := [("all", 'a'), ("kernel-name", 's'), ("nodename", 'n'), ("kernel-release", 'r'),
      ("kernel-version", 'v'), ("machine", 'm'), ("processor", 'p'), ("hardware-platform", 'i'),
      ("operating-system", 'o')] } words
  match operands with
  | extra :: _ => Tool.misuse s!"extra operand {quoteName extra}"
  | [] => pure ()
  let parts : List (String × Octets) := [("s", "Linux"), ("n", "localhost"), ("r", "6.1.0"),
    ("v", "#1 SMP"), ("m", "x86_64"), ("p", "unknown"), ("i", "unknown"), ("o", "GNU/Linux")]
  let has := Given.has found
  let chosen := parts.filter fun (letter, text) =>
    if has "a" then text ≠ "unknown" else has letter
  let chosen := if chosen.isEmpty then parts.take 1 else chosen
  Tool.printLine (String.intercalate " " (chosen.map (·.2)))

/-- Nothing is kept back that would have to be written. -/
def sync (words : List Octets) : Tool Unit := do
  let (_, paths) ← Options.read {
    letters := "df", long := [("data", 'd'), ("file-system", 'f')] } words
  for path in paths do
    match ← Tool.ask (.status path true) with
    | .ok _ => pure ()
    | .error fault => Tool.complain s!"error opening {quoteName path}: {fault.text}"

/-- The paths of programs. -/
def which (words : List Octets) : Tool Unit := do
  let (found, names) ← Options.read { letters := "as" } words
  let path := ((← get).bindings.lookup "PATH").getD ""
  for name in names do
    let candidates := if name.toList.contains '/' then [name]
      else (path.splitOn ":").map fun dir => if dir = "" then s!"./{name}" else s!"{dir}/{name}"
    let mut isFound := false
    for candidate in candidates do
      if !isFound || Given.has found "a" then
        match ← Tool.statusOf? candidate true with
        | some st =>
          if st.kind = .file && st.mode &&& 0o111 ≠ 0 then
            if !Given.has found "s" then Tool.printLine candidate
            isFound := true
        | none => pure ()
    if !isFound then Tool.setStatus 1
  if names.isEmpty then Tool.setStatus 1

end AssetWatch.Utility
