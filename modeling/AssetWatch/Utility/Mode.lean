import AssetWatch.Text.Octets

/-!
# Changes of modes

A mode is given as a number, or as clauses that say who gains, loses or is left with which
rights. A clause that names no one leaves alone what the mask of the process holds back.
-/

namespace AssetWatch.Utility

/-- The rights that a clause is about. -/
inductive Rights
  | bits (mask : Nat) (executeIfAny : Bool)
  /-- those that the user, the group or others have -/
  | copied (shift : Nat)

structure ModeClause where
  /-- the bits of those it is about; none for everyone but for the mask -/
  who : Option Nat
  operator : Char
  rights : Rights

inductive Mode
  | number (value : Nat) (isLong : Bool)
  | clauses (clauses : List ModeClause)

namespace Mode

def everyone : Nat := 0o7777

def whoBits (c : Char) : Option Nat :=
  match c with
  | 'u' => some 0o4700
  | 'g' => some 0o2070
  | 'o' => some 0o1007
  | 'a' => some everyone
  | _ => none

def rightBits (c : Char) : Option Nat :=
  match c with
  | 'r' => some 0o444
  | 'w' => some 0o222
  | 'x' => some 0o111
  | 's' => some 0o6000
  | 't' => some 0o1000
  | 'X' => some 0
  | _ => none

def isOperator (c : Char) : Bool := c = '+' || c = '-' || c = '='

def rightsOf (cs : List Char) : Rights × List Char :=
  let copied (shift : Nat) := (Rights.copied shift, cs.drop 1)
  match cs.head? with
  | some 'u' => copied 6
  | some 'g' => copied 3
  | some 'o' => copied 0
  | _ =>
    let (found, rest) := cs.span fun c => (rightBits c).isSome
    let bits := found.foldl (fun n c => n ||| (rightBits c).getD 0) 0
    (.bits bits (found.contains 'X'), rest)

/-- The clauses of which each begins with an operator. -/
def actions (who : Option Nat) : (fuel : Nat) → List Char → Option (List ModeClause)
  | 0, _ => none
  | _, [] => some []
  | fuel + 1, c :: rest =>
    if !isOperator c then none
    else
      let (rights, rest) := rightsOf rest
      (actions who fuel rest).map ({ who, operator := c, rights } :: ·)

def clause (text : Octets) : Option (List ModeClause) :=
  let (who, rest) := text.toList.span fun c => (whoBits c).isSome
  let bits := who.foldl (fun n c => n ||| (whoBits c).getD 0) 0
  if rest.isEmpty then none
  else actions (if who.isEmpty then none else some bits) (rest.length + 1) rest

def parse? (text : Octets) : Option Mode :=
  let isOctal (c : Char) : Bool := '0' ≤ c && c ≤ '7'
  if text = "" then none
  else if text.all isOctal then
    let value := text.foldl (fun n c => n * 8 + (c.toNat - '0'.toNat)) 0
    if everyone < value then none else some (.number value (4 < text.length))
  else ((text.splitOn ",").mapM clause).map fun all => .clauses all.flatten

/-- What a clause makes of a mode. -/
def applyClause (c : ModeClause) (isDirectory : Bool) (mask mode : Nat) : Nat :=
  let asked := match c.rights with
    | .bits bits executeIfAny =>
      if executeIfAny && (isDirectory || mode &&& 0o111 ≠ 0) then bits ||| 0o111 else bits
    | .copied shift =>
      let three := (mode >>> shift) &&& 7
      three * 0o111
  let scope := c.who.getD (everyone - mask &&& everyone)
  let chosen := asked &&& scope
  match c.operator with
  | '+' => mode ||| chosen
  | '-' => mode &&& (everyone - chosen)
  | _ =>
    let kept := if isDirectory then mode &&& 0o6000 else 0
    (mode &&& (everyone - c.who.getD everyone)) ||| chosen ||| kept

/-- What a mode becomes. -/
def apply (m : Mode) (isDirectory : Bool) (mask mode : Nat) : Nat :=
  match m with
  | .number value isLong => if isDirectory && !isLong then value ||| (mode &&& 0o6000) else value
  | .clauses all => all.foldl (fun mode c => applyClause c isDirectory mask mode) mode

end Mode

end AssetWatch.Utility
