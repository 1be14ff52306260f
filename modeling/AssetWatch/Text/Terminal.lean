/-!
# Texts for terminals

A terminal takes some characters as commands: control characters, and sequences that begin with
an escape. What is shown of a text is the rest of it; white space stays.
-/

namespace AssetWatch.Text.Terminal

/-- How far a sequence has been read. -/
inductive Mode
  | plain
  | escape
  | escapeInner
  | entry
  | parameters
  | inner
  | skipped
  /-- a text for the terminal, which a bell may end -/
  | title
  | deviceEntry
  | deviceParameters
  | deviceInner
  /-- a text for the terminal that only another command ends -/
  | device
  deriving DecidableEq

def isWhite (c : Char) : Bool := c = '\t' || c = '\n' || c = '\x0c' || c = '\r' || c = ' '

def isControl (c : Char) : Bool := c < ' '

def between (c low high : Char) : Bool := low ≤ c && c ≤ high

/-- What comes after a character that belongs to a sequence. -/
def next (mode : Mode) (c : Char) : Mode :=
  if c = '\x18' || c = '\x1a' then .plain
  else if c = '\x1b' then .escape
  else if isControl c then (if mode = .title && c = '\x07' then .plain else mode)
  else if c = '\x7f' then mode
  else
    let isInner := between c ' ' '/'
    let isDigit := between c '0' ';'
    let isMark := between c '<' '?'
    match mode with
    | .plain => .plain
    | .escape =>
      if isInner then .escapeInner
      else if c = '[' then .entry
      else if c = ']' then .title
      else if c = 'P' then .deviceEntry
      else if c = 'X' || c = '^' || c = '_' then .device
      else .plain
    | .escapeInner => if isInner then .escapeInner else .plain
    | .entry => if isInner then .inner else if isDigit || isMark then .parameters else .plain
    | .parameters =>
      if isInner then .inner else if isDigit then .parameters else if isMark then .skipped else .plain
    | .inner => if isInner then .inner else if isDigit || isMark then .skipped else .plain
    | .skipped => if isInner || isDigit || isMark then .skipped else .plain
    | .title => .title
    | .deviceEntry =>
      if isInner then .deviceInner else if isDigit || isMark then .deviceParameters else .device
    | .deviceParameters =>
      if isInner then .deviceInner else if isDigit then .deviceParameters else .device
    | .deviceInner => if isInner then .deviceInner else .device
    | .device => .device

/-- A control character that is done at once also within a sequence. -/
def actsWithin (mode : Mode) : Bool :=
  match mode with
  | .plain | .escape | .escapeInner | .entry | .parameters | .inner | .skipped => true
  | _ => false

/-- What is shown of a text, from a mode on. -/
def shownFrom : Mode → List Char → List Char
  | _, [] => []
  | mode, c :: rest =>
    if 128 ≤ c.toNat then
      if mode = .plain then c :: shownFrom .plain rest
      else List.replicate (c.utf8Size - 1) '\uFFFD' ++ shownFrom .plain rest
    else if isControl c && isWhite c && actsWithin mode then c :: shownFrom .plain rest
    else if mode = .plain && !isControl c && c ≠ '\x7f' then c :: shownFrom .plain rest
    else shownFrom (next mode c) rest

/-- What is shown of a text. -/
def shown (s : String) : String := String.ofList (shownFrom .plain s.toList)

end AssetWatch.Text.Terminal
