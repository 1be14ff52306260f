import AssetWatch.Shell.Pattern

/-!
# Regular expressions

Basic and extended regular expressions over octets. A match begins as far in front as it can
and is then as long as it can be; of ways to match the same stretch, the one that gives more to
what stands in front counts. The ways are searched by the positions that they reach, so that a
search takes a time bounded by the length of the text.
-/

namespace AssetWatch.Utility

/-- Where an expression holds without taking anything. -/
inductive Border
  | lineStart
  | lineEnd
  | wordStart
  | wordEnd
  | wordBorder
  | notBorder
  | textStart
  | textEnd
  deriving DecidableEq

inductive Regex
  | empty
  | char (c : Char)
  | any
  | member (pass : Char → Bool)
  | border (b : Border)
  | sequence (first second : Regex)
  | choice (first second : Regex)
  /-- so many times; without an upper end if there is none -/
  | repeated (least : Nat) (most? : Option Nat) (body : Regex)
  | group (number : Nat) (body : Regex)
  | again (number : Nat)

namespace Regex

instance : Inhabited Regex := ⟨.empty⟩

def isWord (c : Char) : Bool := c.isAlphanum || c = '_'

/-! ## Matching -/

/-- What groups have matched, the last in front: numbers, beginnings and ends. -/
abbrev Groups := List (Nat × Nat × Nat)

/-- A position that has been reached, with its groups. -/
abbrev Reached := Nat × Groups

/-- A text to be searched. -/
structure Subject where
  chars : Array Char
  foldCase : Bool := false
  /-- borders of lines hold at line ends within the text -/
  hasLines : Bool := false
  /-- the text begins in the middle of a line -/
  isInner : Bool := false

namespace Subject

def at? (s : Subject) (i : Nat) : Option Char := s.chars[i]?

def isWordAt (s : Subject) (i : Nat) : Bool := ((s.at? i).map isWord).getD false

def isWordBefore (s : Subject) (i : Nat) : Bool := 0 < i && s.isWordAt (i - 1)

def holds (s : Subject) (b : Border) (i : Nat) : Bool :=
  let before := s.isWordBefore i
  let behind := s.isWordAt i
  match b with
  | .textStart => i = 0
  | .textEnd => i = s.chars.size
  | .lineStart =>
    if i = 0 then !s.isInner else s.hasLines && s.at? (i - 1) = some '\n'
  | .lineEnd => i = s.chars.size || (s.hasLines && s.at? i = some '\n')
  | .wordStart => !before && behind
  | .wordEnd => before && !behind
  | .wordBorder => before != behind
  | .notBorder => before == behind

def same (s : Subject) (a b : Char) : Bool :=
  a = b || (s.foldCase && a.toLower = b.toLower)

def inSet (s : Subject) (pass : Char → Bool) (c : Char) : Bool :=
  pass c || (s.foldCase && (pass c.toLower || pass c.toUpper))

/-- Whether a stretch from one position stands at another, too. -/
def repeats (s : Subject) (origin length place : Nat) : Bool :=
  (List.range length).all fun k =>
    match s.at? (origin + k), s.at? (place + k) with
    | some a, some b => s.same a b
    | _, _ => false

end Subject

/-- The first way to each position. -/
def distinct (withGroups : Bool) (rs : List Reached) : List Reached :=
  if withGroups then rs.eraseDups
  else
    let step (taken : List Reached) (r : Reached) : List Reached :=
      if taken.any (·.1 = r.1) then taken else r :: taken
    (rs.foldl step []).reverse

/-- Goes on from what has been reached. -/
def spread (withGroups : Bool) (next : Reached → List Reached) (rs : List Reached) :
    List Reached :=
  match rs with
  | [] => []
  | [r] => next r
  | rs => distinct withGroups (rs.flatMap next)

/-- Repetitions, those that go on longer in front. `seen` are positions from which the search
has gone on. -/
def iterate (next : Reached → List Reached) : (fuel : Nat) → (most? : Option Nat) →
    List Reached → List Nat → List Reached × List Nat
  | 0, _, _, seen => ([], seen)
  | _, _, [], seen => ([], seen)
  | fuel + 1, most?, r :: rest, seen =>
    let (mine, seen) :=
      if most? = some 0 then ([r], seen)
      else
        let further := (next r).filter fun q => q.1 ≠ r.1 && !(most?.isNone && seen.contains q.1)
        let seen := if most?.isNone then further.map (·.1) ++ seen else seen
        let (found, seen) := iterate next fuel (most?.map (· - 1)) further seen
        (found ++ [r], seen)
    let (others, seen) := iterate next fuel most? rest seen
    (mine ++ others, seen)

/-- Applies a step so many times. -/
def times (withGroups : Bool) (next : Reached → List Reached) : Nat → List Reached → List Reached
  | 0, rs => rs
  | n + 1, rs => times withGroups next n (spread withGroups next rs)

/-- The positions that an expression reaches from one. -/
def ends (s : Subject) (withGroups : Bool) : Regex → Reached → List Reached
  | .empty, r => [r]
  | .char c, r =>
    match s.at? r.1 with
    | some d => if s.same c d then [(r.1 + 1, r.2)] else []
    | none => []
  | .any, r => if r.1 < s.chars.size then [(r.1 + 1, r.2)] else []
  | .member pass, r =>
    match s.at? r.1 with
    | some d => if s.inSet pass d then [(r.1 + 1, r.2)] else []
    | none => []
  | .border b, r => if s.holds b r.1 then [r] else []
  | .sequence first second, r =>
    spread withGroups (ends s withGroups second) (ends s withGroups first r)
  | .choice first second, r =>
    distinct withGroups (ends s withGroups first r ++ ends s withGroups second r)
  | .repeated least most? body, r =>
    let started := times withGroups (ends s withGroups body) least [r]
    let fuel := (s.chars.size + 2) * (s.chars.size + 2) + most?.getD 0
    let (found, _) := iterate (ends s withGroups body) fuel (most?.map (· - least)) started []
    distinct withGroups found
  | .group number body, r =>
    (ends s withGroups body r).map fun q => (q.1, (number, r.1, q.1) :: q.2)
  | .again number, r =>
    match r.2.lookup number with
    | some (first, last) =>
      let length := last - first
      if s.repeats first length r.1 then [(r.1 + length, r.2)] else []
    | none => []

/-- Whether a group is referred to. -/
def refers : Regex → Bool
  | .again _ => true
  | .sequence a b | .choice a b => a.refers || b.refers
  | .repeated _ _ a | .group _ a => a.refers
  | _ => false

/-- A match: where it begins and ends, and what its groups have matched. -/
structure Match where
  first : Nat
  last : Nat
  groups : Groups

/-- The longest match that begins at a position. -/
def matchAt (e : Regex) (s : Subject) (i : Nat) : Option Match :=
  let found := ends s e.refers e (i, [])
  let best := found.foldl (fun (best : Option Reached) r =>
    match best with
    | some b => if b.1 < r.1 then some r else best
    | none => some r) none
  best.map fun (last, groups) => { first := i, last, groups }

/-- The characters with which a match can begin, if that is known. -/
def firstChar? : Regex → Option Char
  | .char c => some c
  | .sequence a _ => a.firstChar?
  | .group _ a => a.firstChar?
  | _ => none

/-- The first match from a position on, up to the end of the text. -/
def search (e : Regex) (s : Subject) : (fuel : Nat) → (i : Nat) → Option Match
  | 0, _ => none
  | fuel + 1, i =>
    if s.chars.size < i then none
    else
      let isFutile := match e.firstChar? with
        | some c => !((s.at? i).map (s.same c)).getD false
        | none => false
      match if isFutile then none else e.matchAt s i with
      | some m => some m
      | none => e.search s fuel (i + 1)

def find? (e : Regex) (s : Subject) (i : Nat := 0) : Option Match :=
  e.search s (s.chars.size + 2) i

/-! ## Reading -/

/-- How expressions are written. -/
inductive Dialect
  | basic
  | extended
  deriving DecidableEq

structure Reading where
  rest : List Char
  /-- groups that have been opened -/
  groups : Nat := 0
  /-- groups that have been closed -/
  closed : List Nat := []
  depth : Nat := 0

abbrev Parse := StateT Reading (Except String)

/-- A set in brackets, from behind the one that opens it. -/
def bracket : Parse Regex := do
  let s ← get
  let (negated, cs) := match s.rest with
    | '^' :: rest => (true, rest)
    | cs => (false, cs)
  let rec items (fuel : Nat) (first : Bool) (cs : List Char) (ranges : List (Char × Char))
      (classes : List String) : Except String (List (Char × Char) × List String × List Char) :=
    match fuel, cs with
    | 0, _ | _, [] => .error "Unmatched [, [^, [:, [., or [="
    | fuel + 1, c :: rest =>
      if c = ']' && !first then .ok (ranges, classes, rest)
      else match c, rest with
        | '[', ':' :: more =>
          let name := String.ofList (more.takeWhile Char.isAlpha)
          match more.drop name.length with
          | ':' :: ']' :: rest =>
            if Shell.classNames.contains name then items fuel false rest ranges (name :: classes)
            else .error "Invalid character class name"
          | _ => items fuel false rest ((c, c) :: ranges) classes
        | '[', mark :: d :: close :: ']' :: more =>
          if (mark = '.' || mark = '=') && close = mark then
            items fuel false more ((d, d) :: ranges) classes
          else items fuel false rest ((c, c) :: ranges) classes
        | c, '-' :: d :: more =>
          if d = ']' then items fuel false rest ((c, c) :: ranges) classes
          else if d < c then .error "Invalid range end"
          else items fuel false more ((c, d) :: ranges) classes
        | c, rest => items fuel false rest ((c, c) :: ranges) classes
  match items (cs.length + 1) true cs [] [] with
  | .error text => throw text
  | .ok (ranges, classes, rest) =>
    set { s with rest }
    return .member fun c =>
      let inside := ranges.any (fun (a, b) => a ≤ c && c ≤ b) ||
        classes.any fun name => Shell.inClass name c
      inside != negated

/-- The numbers of a repetition, from behind what opens it; none if there are none. -/
def bounds (d : Dialect) (cs : List Char) : Option (Nat × Option Nat × List Char) :=
  let number (ds : List Char) : Nat := ds.foldl (fun n c => n * 10 + (c.toNat - '0'.toNat)) 0
  let (low, rest) := cs.span Char.isDigit
  let (high?, hasComma, rest) : Option Nat × Bool × List Char := match rest with
    | ',' :: more =>
      let (high, rest) := more.span Char.isDigit
      (if high.isEmpty then none else some (number high), true, rest)
    | rest => (none, false, rest)
  let closed? := match d, rest with
    | .extended, '\x7d' :: rest => some rest
    | .basic, '\\' :: '\x7d' :: rest => some rest
    | _, _ => none
  match closed? with
  | none => none
  | some rest =>
    if low.isEmpty && !hasComma then none
    else some (number low, if hasComma then high? else some (number low), rest)

/-- An escaped character that is the same everywhere. -/
def escaped (c : Char) : Option Regex :=
  match c with
  | 'w' => some (.member isWord)
  | 'W' => some (.member fun c => !isWord c)
  | 's' => some (.member (Shell.inClass "space"))
  | 'S' => some (.member fun c => !Shell.inClass "space" c)
  | 'b' => some (.border .wordBorder)
  | 'B' => some (.border .notBorder)
  | '<' => some (.border .wordStart)
  | '>' => some (.border .wordEnd)
  | '\x60' => some (.border .textStart)
  | '\x27' => some (.border .textEnd)
  | _ => none

mutual

/-- Alternatives, up to what closes a group or the end. -/
def alternatives (d : Dialect) (fuel : Nat) : Parse Regex :=
  match fuel with
  | 0 => throw "Regular expression too big"
  | fuel + 1 => do
    let first ← branch d fuel true .empty
    match d, (← get).rest with
    | .extended, '|' :: rest | .basic, '\\' :: '|' :: rest =>
      modify fun s => { s with rest }
      return .choice first (← alternatives d fuel)
    | _, _ => return first

/-- A sequence of pieces; `first` tells that nothing stands in front. -/
def branch (d : Dialect) (fuel : Nat) (first : Bool) (taken : Regex) : Parse Regex :=
  match fuel with
  | 0 => throw "Regular expression too big"
  | fuel + 1 => do
    let s ← get
    let isEnd := match d, s.rest with
      | _, [] => true
      | .extended, '|' :: _ | .basic, '\\' :: '|' :: _ => true
      | .extended, ')' :: _ | .basic, '\\' :: ')' :: _ => 0 < s.depth
      | _, _ => false
    if isEnd then return taken
    let piece ← atom d fuel first
    let piece ← repetitions d fuel piece
    let isAnchor := match piece with
      | .border .lineStart => true
      | _ => false
    let joined := match taken with
      | .empty => piece
      | taken => .sequence taken piece
    branch d fuel (first && isAnchor && d = .basic) joined

/-- One piece without what repeats it. -/
def atom (d : Dialect) (fuel : Nat) (first : Bool) : Parse Regex :=
  match fuel with
  | 0 => throw "Regular expression too big"
  | fuel + 1 => do
    let s ← get
    let go (rest : List Char) (e : Regex) : Parse Regex := do
      set { s with rest }
      return e
    let opened (rest : List Char) : Parse Regex := do
      let number := s.groups + 1
      set { s with rest, groups := number, depth := s.depth + 1 }
      let body ← alternatives d fuel
      let after ← get
      let closed? := match d, after.rest with
        | .extended, ')' :: rest | .basic, '\\' :: ')' :: rest => some rest
        | _, _ => none
      match closed? with
      | none => throw "Unmatched ( or \\("
      | some rest =>
        set { after with rest, depth := s.depth, closed := number :: after.closed }
        return .group number body
    match d, s.rest with
    | _, [] => return .empty
    | _, '.' :: rest => go rest .any
    | _, '[' :: rest =>
      set { s with rest }
      bracket
    | .extended, '(' :: rest => opened rest
    | .basic, '\\' :: '(' :: rest => opened rest
    | .basic, '\\' :: ')' :: _ => throw "Unmatched ) or \\)"
    | .extended, '^' :: rest => go rest (.border .lineStart)
    | .extended, '$' :: rest => go rest (.border .lineEnd)
    | .basic, '^' :: rest => go rest (if first then .border .lineStart else .char '^')
    | .basic, '$' :: rest =>
      let isLast := match rest with
        | [] | '\\' :: ')' :: _ | '\\' :: '|' :: _ => true
        | _ => false
      go rest (if isLast then .border .lineEnd else .char '$')
    | .basic, '*' :: rest =>
      if first then go rest (.char '*') else go rest .empty
    | .extended, c :: rest =>
      if c = '*' || c = '+' || c = '?' then go rest .empty
      else if c = '\\' then escape rest
      else go rest (.char c)
    | .basic, '\\' :: rest => escape rest
    | _, c :: rest => go rest (.char c)
where
  escape (rest : List Char) : Parse Regex := do
    match rest with
    | [] => throw "Trailing backslash"
    | c :: rest =>
      modify fun s => { s with rest }
      if c.isDigit && c ≠ '0' then
        let number := c.toNat - '0'.toNat
        if (← get).closed.contains number then return .again number
        else throw "Invalid back reference"
      else if c = 'n' then return .char '\n'
      else return (escaped c).getD (.char c)

/-- What repeats a piece. -/
def repetitions (d : Dialect) (fuel : Nat) (e : Regex) : Parse Regex :=
  match fuel with
  | 0 => throw "Regular expression too big"
  | fuel + 1 => do
    let s ← get
    let go (rest : List Char) (least : Nat) (most? : Option Nat) : Parse Regex := do
      set { s with rest }
      repetitions d fuel (.repeated least most? e)
    let counted (inner : List Char) : Parse Regex :=
      match bounds d inner with
      | some (least, most?, rest) =>
        if 32767 < max least (most?.getD 0) then throw "Regular expression too big"
        else if (most?.map (decide <| · < least)).getD false then throw "Invalid content of \\\x7b\\\x7d"
        else go rest least most?
      | none =>
        if d = .extended then do
          set { s with rest := inner }
          repetitions d fuel (.sequence e (.char '\x7b'))
        else if inner.contains '\x7d' then throw "Invalid content of \\\x7b\\\x7d"
        else throw "Unmatched \\\x7b"
    match d, s.rest with
    | _, '*' :: rest => go rest 0 none
    | .extended, '+' :: rest | .basic, '\\' :: '+' :: rest => go rest 1 none
    | .extended, '?' :: rest | .basic, '\\' :: '?' :: rest => go rest 0 (some 1)
    | .extended, '\x7b' :: rest => counted rest
    | .basic, '\\' :: '\x7b' :: rest => counted rest
    | _, _ => return e

end

/-- Reads an expression; the number of its groups comes with it. -/
def parse (d : Dialect) (text : Octets) : Except String (Regex × Nat) := do
  let cs := text.toList
  let (e, s) ← (alternatives d (8 * cs.length + 16)).run { rest := cs }
  match s.rest with
  | [] => return (e, s.groups)
  | _ => throw "Unmatched ) or \\)"

/-- The expression that matches a text as it is. -/
def literal (text : Octets) : Regex :=
  match text.toList with
  | [] => .empty
  | c :: rest => rest.foldl (fun e d => .sequence e (.char d)) (.char c)

end Regex

end AssetWatch.Utility
