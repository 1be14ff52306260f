import AssetWatch.Utility.Removing

/-!
# Copying, moving and linking entries

A copy is written over a file that is there and keeps that file's mode; a new file has the
mode of its source, as far as the mask lets it. An entry that is moved stays the same node.
-/

namespace AssetWatch.Utility

open Host (Access Edit Fault Status)

/-! ## Copying -/

/-- How copies are made. -/
structure CopyStyle where
  recursive : Bool := false
  /-- an operand that is a link is copied as what it leads to -/
  follows : Bool := true
  /-- so are links in directories -/
  followsInside : Bool := true
  /-- modes and times are kept -/
  preserves : Bool := false
  forced : Bool := false
  verbose : Bool := false
  /-- an entry that is there stays -/
  keeps : Bool := false
  /-- an entry that is there stays, unless it is older -/
  updates : Bool := false
  hardLinks : Bool := false
  softLinks : Bool := false
  removesFirst : Bool := false

/-- What the operands of a copy were, and the directory made for them. -/
structure Copied where
  source : Octets
  target : Octets
  made : Option Nat := none

def tellPair (style : CopyStyle) (source target : Octets) : Tool Unit :=
  if style.verbose then Tool.printLine s!"{quoteName source} -> {quoteName target}" else pure ()

/-- Gives a copy the mode and the time of its source. -/
def preserve (style : CopyStyle) (st : Status) (target : Octets) : Tool Unit := do
  if style.preserves then
    let _ ← edit (.setTime target (some st.modified))
    let _ ← edit (.setMode target (st.mode &&& 0o7777))

/-- Copies the content of a file. -/
def copyContent (style : CopyStyle) (st : Status) (source target : Octets)
    (isThere : Bool) : Tool Bool := do
  match ← Tool.readFile (if source = "-" then "./-" else source) with
  | .error fault =>
    Tool.complain s!"cannot open {quoteName source} for reading: {fault.text}"
    return false
  | .ok content =>
    let fresh : Access := { writes := true, creates := true, excludes := true, mode := st.mode &&& 0o777 }
    let written ←
      if isThere then
        match ← Tool.writeFile target content { writes := true, truncates := true } with
        | .ok _ => pure (.ok ())
        | .error fault =>
          if style.forced then
            let _ ← edit (.removeFile target)
            Tool.writeFile target content fresh
          else pure (.error fault)
      else Tool.writeFile target content fresh
    match written with
    | .ok _ =>
      preserve style st target
      return true
    | .error fault =>
      let fault := if fault = .isDirectory && target.endsWith "/" then Fault.notDirectory else fault
      Tool.complain s!"cannot create regular file {quoteName target}: {fault.text}"
      return false

/-- Copies a link as a link. -/
def copyLink (source target : Octets) (isThere : Bool) : Tool Bool := do
  let refused (fault : Fault) : Tool Bool := do
    Tool.complain s!"cannot create symbolic link {quoteName target}: {fault.text}"
    return false
  match ← Tool.ask (.readLink source) with
  | .error fault =>
    Tool.complain s!"cannot read symbolic link {quoteName source}: {fault.text}"
    return false
  | .ok aim =>
    if isThere then
      let _ ← edit (.removeFile target)
    match ← edit (.link aim target) with
    | .ok _ => return true
    | .error fault => refused fault

/-- What hinders a copy over an entry that is there; nothing if it may go on. -/
def hindrance (style : CopyStyle) (isLink : Bool) (st old : Status) (source target : Octets) :
    Option Octets :=
  if st.number = old.number && !(style.hardLinks && !isLink) then
    some s!"{quoteName source} and {quoteName target} are the same file"
  else if st.kind = .directory && old.kind ≠ .directory then
    some s!"cannot overwrite non-directory {quoteName target} with directory {quoteName source}"
  else if st.kind ≠ .directory && old.kind = .directory then
    some s!"cannot overwrite directory {quoteName target} with non-directory"
  else none

/-- Copies an entry, with what lies in it. -/
def copyEntry (style : CopyStyle) : (fuel : Nat) → Copied → Octets → Octets → Tool Bool
  | 0, _, _, _ => pure false
  | fuel + 1, whole, source, target => do
    match ← Tool.ask (.status source style.follows) with
    | .error fault =>
      Tool.complain s!"cannot stat {quoteName source}: {fault.text}"
      return false
    | .ok st =>
      if st.kind = .directory && !style.recursive then
        Tool.complain s!"-r not specified; omitting directory {quoteName source}"
        return false
      if some st.number = whole.made then
        Tool.complain <| "cannot copy a directory, " ++ quoteName whole.source ++
          ", into itself, " ++ quoteName whole.target
        return false
      let isLink := st.kind = .link
      let old? ← Tool.statusOf? target (!isLink && !style.removesFirst)
      let lies ← Tool.statusOf? target false
      let isIdle : Bool := match old? with
        | some old => st.kind ≠ .directory && (style.keeps ||
            (style.updates && st.modified ≤ old.modified))
        | none => false
      if isIdle then return true
      match old?.bind fun old => hindrance style isLink st old source target with
      | some text =>
        Tool.complain text
        return false
      | none =>
        if st.kind = .directory then
          let made? ← match old? with
            | some _ => pure (some whole)
            | none =>
              match ← edit (.makeDirectory target (st.mode ||| 0o700)) with
              | .error fault =>
                Tool.complain s!"cannot create directory {quoteName target}: {fault.text}"
                pure none
              | .ok _ =>
                tellPair style source target
                let number := (← Tool.statusOf? target true).map (·.number)
                pure (some (if whole.made.isNone then { whole with made := number } else whole))
          match made? with
          | none => return false
          | some whole =>
            let mut isWhole := true
            match ← Tool.ask (.list source) with
            | .error fault =>
              Tool.complain s!"cannot access {quoteName source}: {fault.text}"
              isWhole := false
            | .ok names =>
              for name in names do
                if !(← copyEntry { style with follows := style.followsInside } fuel whole
                    (within source name) (within target name)) then isWhole := false
            if isWhole then preserve style st target
            return isWhole
        let mut there := old?.isSome
        if old?.isNone && lies.isSome && !isLink then
          Tool.complain s!"not writing through dangling symlink {quoteName target}"
          return false
        if there && (style.removesFirst || ((style.hardLinks || style.softLinks) && style.forced)) then
          let _ ← edit (.removeFile target)
          there := false
        tellPair style source target
        if style.hardLinks || style.softLinks then
          let aim := if style.hardLinks then Edit.share source target else Edit.link source target
          match ← edit aim with
          | .ok _ => return true
          | .error fault =>
            let what := if style.hardLinks then "hard link" else "symbolic link"
            let about := if style.hardLinks then s!" to {quoteName source}" else ""
            Tool.complain s!"cannot create {what} {quoteName target}{about}: {fault.text}"
            return false
        if isLink then copyLink source target there
        else copyContent style st source target there

def copyOptions : Options := {
  letters := "abdfHilLnprRst:TuvxPZS:"
  long := [("archive", 'a'), ("force", 'f'), ("interactive", 'i'), ("link", 'l'),
    ("dereference", 'L'), ("no-clobber", 'n'), ("no-dereference", 'P'), ("recursive", 'r'),
    ("symbolic-link", 's'), ("suffix", 'S'), ("target-directory", 't'), ("no-target-directory", 'T'),
    ("verbose", 'v'), ("one-file-system", 'x')]
  words := [("remove-destination", .none), ("reflink", .optional), ("preserve", .optional),
    ("no-preserve", .required), ("parents", .none), ("update", .optional), ("backup", .optional),
    ("attributes-only", .none), ("sparse", .required), ("strip-trailing-slashes", .none)] }

def copyStyle (found : List Given) : CopyStyle :=
  let has := Given.has found
  let recursive := has "r" || has "R" || has "a"
  let follows := match Given.last? found ["L", "P", "d", "a", "H"] with
    | some g => g.name = "L" || g.name = "H"
    | none => !recursive
  { recursive
    follows
    followsInside := follows && !(Given.last? found ["L", "P", "d", "a", "H"]).any (·.name = "H")
    preserves := has "p" || has "a" || has "preserve"
    forced := has "f"
    verbose := has "v"
    keeps := has "n" || has "i"
    updates := has "u" || (match Given.value? found "update" with
      | some value => value = "" || value = "older"
      | none => false)
    hardLinks := has "l"
    softLinks := has "s"
    removesFirst := has "remove-destination" }

def cp (words : List Octets) : Tool Unit := do
  let (found, operands) ← copyOptions.read words
  let style := copyStyle found
  let goal ← goalOf found operands
  let parents := Given.has found "parents"
  if let (true, .onto ..) := (parents, goal) then
    Tool.misuse "with --parents, the destination must be a directory"
  let mut done : List Octets := []
  for (source, plain) in goal.pairs do
    let target ← match goal, parents with
      | .into folder _, true =>
        let front := folderOf (dropSlashes source)
        if front ≠ "." then
          let _ ← makeFolders 0o777 (fun _ => pure ()) (stages (within folder front))
        pure (within folder (dropSlashes source))
      | _, _ => pure plain
    if done.contains target && !(← Tool.isDirectory source) then
      Tool.complain s!"will not overwrite just-created {quoteName target} with {quoteName source}"
    else
      let _ ← copyEntry style Tool.endless { source, target } source target
    done := target :: done

/-! ## Moving -/

/-- What is told when an entry cannot be moved. -/
def moveFault (source target : Octets) (isDirectory : Bool) (old? : Option Status) :
    Fault → Octets
  | .invalid => s!"cannot move {quoteName source} to a subdirectory of itself, {quoteName target}"
  | .notEmpty => s!"cannot overwrite {quoteName target}: Directory not empty"
  | .notDirectory =>
    if isDirectory && old?.isSome then
      s!"cannot overwrite non-directory {quoteName target} with directory {quoteName source}"
    else s!"cannot move {quoteName source} to {quoteName target}: Not a directory"
  | .isDirectory => s!"cannot overwrite directory {quoteName target} with non-directory"
  | fault => s!"cannot move {quoteName source} to {quoteName target}: {fault.text}"

def moveEntry (keeps updates verbose : Bool) (source target : Octets) : Tool Unit := do
  match ← Tool.ask (.status source false) with
  | .error fault => Tool.complain s!"cannot stat {quoteName source}: {fault.text}"
  | .ok st =>
    let isDirectory := st.kind = .directory
    let old? ← match ← Tool.ask (.status target false) with
      | .ok old => pure (some old)
      | .error fault =>
        if fault ≠ .notFound then
          Tool.complain s!"cannot stat {quoteName target}: {fault.text}"
          return
        pure none
    let isIdle : Bool := match old? with
      | some old => keeps || (updates && st.modified ≤ old.modified)
      | none => false
    if isIdle then return
    let plain := dropSlashes target
    if !isDirectory && target.endsWith "/" && plain ≠ "" && old?.isNone then
      Tool.complain s!"cannot move {quoteName source} to {quoteName target}: Not a directory"
      return
    match old? with
    | some old =>
      if old.number = st.number then
        if st.links < 2 || isDirectory || straight source = straight target then
          Tool.complain s!"{quoteName source} and {quoteName target} are the same file"
        else
          let _ ← edit (.removeFile source)
        return
      if !isDirectory && old.kind = .directory then
        Tool.complain (moveFault source target isDirectory old? .isDirectory)
        return
      if isDirectory && old.kind ≠ .directory then
        Tool.complain (moveFault source target isDirectory old? .notDirectory)
        return
    | none => pure ()
    match ← edit (.rename source target) with
    | .ok _ =>
      if verbose then Tool.printLine s!"renamed {quoteName source} -> {quoteName target}"
    | .error fault => Tool.complain (moveFault source target isDirectory old? fault)

def mv (words : List Octets) : Tool Unit := do
  let (found, operands) ← Options.read {
    letters := "bfint:TuvZS:"
    long := [("force", 'f'), ("interactive", 'i'), ("no-clobber", 'n'), ("suffix", 'S'),
      ("target-directory", 't'), ("no-target-directory", 'T'), ("verbose", 'v')]
    words := [("update", .optional), ("backup", .optional), ("strip-trailing-slashes", .none)] } words
  let goal ← goalOf found operands
  let keeps : Bool := match Given.last? found ["n", "i", "f"] with
    | some g => g.name ≠ "f"
    | none => false
  let updates := Given.has found "u" || Given.has found "update"
  for (source, target) in goal.pairs do
    moveEntry keeps updates (Given.has found "v") source target

/-! ## Linking -/

/-- How links are made. -/
structure LinkStyle where
  soft : Bool
  forced : Bool
  relative : Bool
  verbose : Bool

/-- The target of a link that is told from the link's own directory. -/
def relativeAim (source target : Octets) : Tool Octets := do
  let here := (← Tool.ask .directory).toOption.getD "/"
  let full (path : Octets) : Octets := straight (if path.startsWith "/" then path else within here path)
  let folder := (← Tool.ask (.canonical (folderOf target))).toOption.getD (full (folderOf target))
  let aim := (← Tool.ask (.canonical source)).toOption.getD (full source)
  return pathFrom folder aim

def linkEntry (style : LinkStyle) (source target : Octets) : Tool Unit := do
  if !style.soft then
    match ← Tool.ask (.status source false) with
    | .error fault =>
      Tool.complain s!"failed to access {quoteName source}: {fault.text}"
      return
    | .ok st =>
      if st.kind = .directory then
        Tool.complain s!"{showName source}: hard link not allowed for directory"
        return
  let aim ← if style.soft && style.relative then relativeAim source target else pure source
  if style.forced then
    match ← Tool.statusOf? target false with
    | some old =>
      match ← Tool.statusOf? source style.soft with
      | some st =>
        if st.number = old.number && (st.links = 1 || straight source = straight target) then
          Tool.complain s!"{quoteName source} and {quoteName target} are the same file"
          return
      | none => pure ()
      if old.kind = .directory then
        Tool.complain s!"{showName target}: cannot overwrite directory"
        return
      let _ ← edit (.removeFile target)
    | none => pure ()
  match ← edit (if style.soft then .link aim target else .share source target) with
  | .ok _ =>
    if style.verbose then
      let arrow := if style.soft then "->" else "=>"
      Tool.printLine s!"{quoteName target} {arrow} {quoteName aim}"
  | .error fault =>
    if style.soft then
      let about := if fault = .exists || fault = .nameTooLong then "" else
        if aim = "" then s!" -> {quoteName aim}" else ""
      Tool.complain s!"failed to create symbolic link {quoteName target}{about}: {fault.text}"
    else
      let about := if fault = .exists then "" else s!" => {quoteName source}"
      Tool.complain s!"failed to create hard link {quoteName target}{about}: {fault.text}"

def ln (words : List Octets) : Tool Unit := do
  let (found, operands) ← Options.read {
    letters := "bdfFinrst:TvLPS:"
    long := [("force", 'f'), ("interactive", 'i'), ("no-dereference", 'n'), ("relative", 'r'),
      ("symbolic", 's'), ("suffix", 'S'), ("target-directory", 't'), ("no-target-directory", 'T'),
      ("verbose", 'v'), ("logical", 'L'), ("physical", 'P'), ("directory", 'd')]
    words := [("backup", .optional)] } words
  let goal ← match operands, Given.has found "t" with
    | [source], false =>
      if Given.has found "T" then goalOf found operands else pure (Goal.into "." [source])
    | [source, target], false =>
      let isLink : Bool := match ← Tool.statusOf? target false with
        | some st => st.kind = .link
        | none => false
      if Given.has found "n" && isLink then pure (Goal.onto source target)
      else goalOf found operands
    | _, _ => goalOf found operands
  let style : LinkStyle := {
    soft := Given.has found "s"
    forced := Given.has found "f"
    relative := Given.has found "r"
    verbose := Given.has found "v" }
  for (source, target) in goal.pairs do
    linkEntry style source target

/-- Makes one hard link. -/
def linkFile (words : List Octets) : Tool Unit := do
  match (← Options.read {} words).2 with
  | [] => Tool.misuse "missing operand"
  | [source] => Tool.misuse s!"missing operand after {quoteName source}"
  | [source, target] =>
    match ← edit (.share source target) with
    | .ok _ => pure ()
    | .error fault =>
      Tool.fail s!"cannot create link {quoteName target} to {quoteName source}: {fault.text}"
  | _ :: _ :: extra :: _ => Tool.misuse s!"extra operand {quoteName extra}"

/-! ## Installing -/

def installFile (mode : Nat) (preserves verbose : Bool) (source target : Octets) : Tool Unit := do
  match ← Tool.ask (.status source true) with
  | .error fault => Tool.complain s!"cannot stat {quoteName source}: {fault.text}"
  | .ok st =>
    if st.kind = .directory then
      Tool.complain s!"omitting directory {quoteName source}"
    else
      let old? ← Tool.statusOf? target false
      match old? with
      | some old =>
        if old.number = st.number then
          Tool.complain s!"{quoteName source} and {quoteName target} are the same file"
          return
        if old.kind = .directory then
          Tool.complain s!"cannot overwrite directory {quoteName target} with non-directory"
          return
        let _ ← edit (.removeFile target)
        if verbose then Tool.printLine s!"removed {quoteName target}"
      | none => pure ()
      if ← copyContent {} { st with mode := 0o600 } source target false then
        if verbose then Tool.printLine s!"{quoteName source} -> {quoteName target}"
        if preserves then
          let _ ← edit (.setTime target (some st.modified))
        let _ ← edit (.setMode target mode)

def install (words : List Octets) : Tool Unit := do
  let (found, operands) ← Options.read {
    letters := "bcCdDg:m:o:pst:TvZS:"
    long := [("compare", 'C'), ("directory", 'd'), ("group", 'g'), ("mode", 'm'), ("owner", 'o'),
      ("preserve-timestamps", 'p'), ("strip", 's'), ("target-directory", 't'),
      ("no-target-directory", 'T'), ("verbose", 'v'), ("suffix", 'S')]
    words := [("backup", .optional), ("strip-program", .required)] } words
  let verbose := Given.has found "v"
  let isFolder := Given.has found "d"
  let mode ← match Given.value? found "m" with
    | none => pure 0o755
    | some text => match Mode.parse? text with
      | some m => pure (m.apply isFolder 0 0)
      | none => Tool.fail s!"invalid mode {quoteText text}"
  let tell (path : Octets) : Tool Unit :=
    if verbose then Tool.printLine s!"install: creating directory {quoteName path}" else pure ()
  let makeAll (mode : Nat) (path : Octets) : Tool Bool := do
    match ← makeFolders 0o755 tell (stages path) with
    | .ok _ =>
      let _ ← edit (.setMode path mode)
      return true
    | .error (place, fault) =>
      Tool.complain s!"cannot create directory {quoteName place}: {fault.text}"
      return false
  if isFolder then
    if operands.isEmpty then Tool.misuse "missing file operand"
    for path in operands do
      let _ ← makeAll mode path
  else
    let leads := Given.has found "D"
    let folder? : Option Octets := match Given.value? found "t", operands, leads with
      | some folder, _, true => some folder
      | none, [_, target], true => some (folderOf target)
      | _, _, _ => none
    let ready ← match folder? with
      | some folder =>
        if ← Tool.isDirectory folder then pure true else makeAll 0o755 folder
      | none => pure true
    if ready then
      let goal ← goalOf found operands
      for (source, target) in goal.pairs do
        installFile mode (Given.has found "p") verbose source target

end AssetWatch.Utility
