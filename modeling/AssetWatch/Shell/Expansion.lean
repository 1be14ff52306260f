import AssetWatch.Shell.Arithmetic
import AssetWatch.Shell.Field
import AssetWatch.Shell.State

/-!
# Replacing what stands in words

Parameters, commands and expressions are replaced by their values, home directories by their
paths; then words are split into fields, and fields that are patterns are replaced by the
names that match, in the order of their octets. A pattern that nothing matches stays.
-/

namespace AssetWatch.Shell

open Host (Fault)

/-- Runs the command that stands in a word, and gives what it writes. -/
abbrev Substitute := Option Command → Sh Octets

/-- What is made of a word. -/
structure Context where
  /-- it becomes fields -/
  makesFields : Bool := false
  /-- it is the value of a variable -/
  assigns : Bool := false
  /-- it may begin with a home directory -/
  hasHome : Bool := true
  /-- it stands within the braces of a parameter -/
  isInner : Bool := false

/-! ## Home directories -/

def homeOf? (s : State) (user : Octets) : Option Octets :=
  if user = "" then s.get? "HOME" else if user = "root" then some "/root" else none

/-- Replaces the home directory in front of a part of a text. `open` tells that something
follows the text directly. -/
def homePieces (s : State) (isOpen : Bool) (part : Octets) : List Piece :=
  match part.toList with
  | '~' :: rest =>
    let user := rest.takeWhile (· ≠ '/')
    let behind := rest.drop user.length
    if behind.isEmpty && isOpen then [.text part false]
    else match homeOf? s (String.ofList user) with
      | some home => [.text home true, .text (String.ofList behind) false]
      | none => [.text part false]
  | _ => [.text part false]

/-- Replaces home directories in the parts between colons. -/
def homeParts (s : State) (isFirst isOpen : Bool) : List Octets → List Piece
  | [] => []
  | [part] => if isFirst then homePieces s isOpen part else [.text part false]
  | part :: rest =>
    (if isFirst then homePieces s false part else [.text part false]) ++
      .text ":" false :: homeParts s true isOpen rest

def withHomes (s : State) (assigns isFirst : Bool) : Word → Word
  | [] => []
  | .text text false :: rest =>
    if !text.toList.contains '~' && !assigns then .text text false :: withHomes s assigns false rest
    else
      let parts := if assigns then text.splitOn ":" else [text]
      homeParts s isFirst (!rest.isEmpty) parts ++ withHomes s assigns (assigns && text.endsWith ":") rest
  | piece :: rest => piece :: withHomes s assigns false rest

/-! ## Parameters -/

inductive ParameterValue
  | missing
  | single (text : Octets)
  /-- all parameters; they are joined if `joined` -/
  | all (texts : List Octets) (joined : Bool)

/-- The letters of options in the order in which they are told. -/
def flagOrder : List Char := "pubaCEVvxsnmiIfe".toList

def parameterValue (s : State) (name : Octets) : ParameterValue :=
  let ofOption (value? : Option Octets) : ParameterValue :=
    match value? with
    | some value => .single value
    | none => .missing
  match name with
  | "@" => .all s.parameters false
  | "*" => .all s.parameters true
  | "#" => .single (toString s.parameters.length)
  | "?" => .single (toString s.status)
  | "$" => .single (toString s.id)
  | "!" => ofOption (s.lastJob?.map toString)
  | "-" => .single (String.ofList (flagOrder.filter s.flags.contains))
  | "0" => .single s.name
  | name =>
    match name.toNat? with
    | some n => ofOption (s.parameters[n - 1]?)
    | none => ofOption (s.get? name)

namespace ParameterValue

def isMissing : ParameterValue → Bool
  | .missing => true
  | _ => false

/-- What separates parameters that are joined. -/
def joint (s : State) : Octets :=
  match s.get? "IFS" with
  | some separators => (separators.take 1).toString
  | none => " "

def text (s : State) : ParameterValue → Octets
  | .missing => ""
  | .single text => text
  | .all texts _ => String.intercalate (joint s) texts

def intersperse (border : Segment) : List Segment → List Segment
  | [] => []
  | [segment] => [segment]
  | segment :: rest => segment :: border :: intersperse border rest

def segments (s : State) (c : Context) (quoted : Bool) (v : ParameterValue) : List Segment :=
  match v with
  | .missing => []
  | .single text => [.text text quoted (c.makesFields && !quoted)]
  | .all texts joined =>
    if c.makesFields && !quoted then
      intersperse (.border false) (texts.map (.text · false true))
    else if c.makesFields && !joined then
      intersperse (.border true) (texts.map (.text · true false))
    else [.text (v.text s) quoted false]

def map (f : Octets → Octets) : ParameterValue → ParameterValue
  | .missing => .missing
  | .single text => .single (f text)
  | .all texts joined => .all (texts.map f) joined

end ParameterValue

/-! ## Expressions -/

/-- The value of an expression, whose assignments are done. -/
def evaluateText (text : Octets) : Sh Int64 := do
  let s ← get
  let wrong {α : Type} (cause : Octets) : Sh α :=
    Sh.fail s!"arithmetic expression: {cause}: \"{text}\""
  match Arithmetic.parse text with
  | .error cause => wrong cause
  | .ok e =>
    match (Arithmetic.compute s.get e).run [] with
    | .error .divisionByZero => wrong "division by zero"
    | .error (.notNumber value) => Sh.fail s!"Illegal number: {value}"
    | .ok (value, assigned) => do
      for (name, n) in assigned.reverse do setVariable name (toString n.toInt)
      return value

/-! ## Words -/

/-- Deeper than words nest. -/
def wordDepth : Nat := 100000

/-- Replaces what stands in a word. -/
def expand (x : Substitute) : (fuel : Nat) → Context → Word → Sh (List Segment)
  | 0, _, _ => pure []
  | fuel + 1, c, word => do
    let before ← get
    let word := if c.hasHome then withHomes before c.assigns true word else word
    let mut segments : Array (List Segment) := #[]
    for piece in word do
      let found : List Segment ← match piece with
        | .text text quoted => pure [.text text quoted (c.isInner && c.makesFields && !quoted)]
        | .arithmetic inner quoted => do
          let inner ← expand x fuel { hasHome := false } inner
          let value ← evaluateText (Segment.join inner)
          pure [.text (toString value.toInt) quoted (c.makesFields && !quoted)]
        | .output body quoted => do
          let text ← x body
          pure [.text text quoted (c.makesFields && !quoted)]
        | .parameter name operator inner quoted => do
          let s ← get
          let value := parameterValue s name
          let inside : Context := { c with isInner := true, hasHome := !quoted, assigns := false }
          let absent (empty : Bool) : Bool :=
            value.isMissing || (empty && value.text s = "")
          let known : Sh Unit := do
            if value.isMissing && s.has 'u' then Sh.fail s!"{name}: parameter not set"
          match operator with
          | .value =>
            known
            pure (value.segments s c quoted)
          | .length =>
            known
            pure [.text (toString (value.text s).length) quoted (c.makesFields && !quoted)]
          | .default empty =>
            if absent empty then expand x fuel inside inner else pure (value.segments s c quoted)
          | .alternative empty =>
            if absent empty then pure [] else expand x fuel inside inner
          | .assign empty =>
            if !absent empty then pure (value.segments s c quoted)
            else do
              let inner ← expand x fuel { hasHome := !quoted } inner
              let text := Segment.join inner
              if !isName name then Sh.fail s!"{name}: bad variable name"
              setVariable name text
              pure [.text text quoted (c.makesFields && !quoted)]
          | .require empty =>
            if !absent empty then pure (value.segments s c quoted)
            else do
              let message := Segment.join (← expand x fuel { hasHome := !quoted } inner)
              let message := if !inner.isEmpty then message
                else if empty then "parameter not set or null" else "parameter not set"
              Sh.fail s!"{name}: {message}"
          | .cutFront longest =>
            known
            let pattern := Pattern.ofGlyphs (Segment.glyphs (← expand x fuel {} inner))
            let cut (text : Octets) := String.ofList (pattern.cutFront longest text.toList)
            pure ((value.map cut).segments s c quoted)
          | .cutBack longest =>
            known
            let pattern := Pattern.ofGlyphs (Segment.glyphs (← expand x fuel {} inner))
            let cut (text : Octets) := String.ofList (pattern.cutBack longest text.toList)
            pure ((value.map cut).segments s c quoted)
          | .unknown => Sh.fail "Bad substitution"
      segments := segments.push found
    return segments.toList.flatten

/-! ## Names of files -/

/-- The names in a directory that match a pattern. -/
def namesMatching (dir : Octets) (gs : List Glyph) : Sh (List Octets) := do
  match ← Sh.ask (.list (if dir = "" then "." else dir)) with
  | .error _ => return []
  | .ok names =>
    let pattern := Pattern.ofGlyphs gs
    let wantsHidden := (gs.head?.map (·.1)) = some '.'
    let names := if wantsHidden then "." :: ".." :: names else names
    return names.filter fun name =>
      (wantsHidden || !name.startsWith ".") && pattern.isMatch name.toList

/-- Splits off the piece in front: separators, and what follows up to the next ones. -/
def pathPiece (gs : List Glyph) : List Glyph × List Glyph × List Glyph :=
  let (separators, rest) := gs.span (·.1 = '/')
  let (piece, rest) := rest.span (·.1 ≠ '/')
  (separators, piece, rest)

def glyphText (gs : List Glyph) : Octets := String.ofList (gs.map (·.1))

/-- The paths that match, from a path on that has been found. -/
def pathsMatching : (fuel : Nat) → (base : Octets) → (sure : Bool) → List Glyph → Sh (List Octets)
  | 0, _, _, _ => pure []
  | fuel + 1, base, sure, gs => do
    if gs.isEmpty then
      if sure then return [base]
      match ← Sh.ask (.status base false) with
      | .ok _ => return [base]
      | .error _ => return []
    let (separators, piece, rest) := pathPiece gs
    let base := base ++ glyphText separators
    let pattern := Pattern.ofGlyphs piece
    if !pattern.isWild then
      let literal := (pattern.literal?.map String.ofList).getD (glyphText piece)
      pathsMatching fuel (base ++ literal) false rest
    else
      let mut found : Array (List Octets) := #[]
      for name in ← namesMatching base piece do
        found := found.push (← pathsMatching fuel (base ++ name) true rest)
      return found.toList.flatten

/-- The paths that a field stands for. -/
def pathsOf (f : Field) : Sh (List Octets) := do
  let gs := f.glyphs
  if (← get).has 'f' || !gs.any (fun (c, quoted) => !quoted && (c = '*' || c = '?' || c = '[')) then
    return [f.text]
  if !(Pattern.ofGlyphs gs).isWild then return [f.text]
  match ← pathsMatching (gs.length + 2) "" false gs with
  | [] => return [f.text]
  | found => return found.mergeSort (· ≤ ·)

/-! ## What words become -/

def expandFields (x : Substitute) (w : Word) : Sh (List Octets) := do
  match w with
  | [.text text true] => return [text]
  | w =>
    let segments ← expand x wordDepth { makesFields := true } w
    let mut found : Array (List Octets) := #[]
    for f in Segment.fields (← get).separators segments do
      found := found.push (← pathsOf f)
    return found.toList.flatten

/-- One text, without splitting. -/
def expandText (x : Substitute) (w : Word) (c : Context := {}) : Sh Octets := do
  return Segment.join (← expand x wordDepth c w)

def expandPattern (x : Substitute) (w : Word) : Sh Pattern := do
  return Pattern.ofGlyphs (Segment.glyphs (← expand x wordDepth {} w))

end AssetWatch.Shell
