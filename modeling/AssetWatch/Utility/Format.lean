import AssetWatch.Text.Binary
import AssetWatch.Utility.Escape

/-!
# Formatting by a template

A template is written as often as it takes to use up the operands. Each of its directives
writes the next operand, or an empty one if none is left.
-/

namespace AssetWatch.Utility.Format

open AssetWatch.Text (Binary)

/-- How a number is looked at. -/
inductive Trouble
  | notNumber (text : Octets)
  | rest (text : Octets)
  | outOfRange (text : Octets)

/-- What differs between formatters. -/
structure Style where
  /-- escapes in the template -/
  escapes : Escapes
  /-- escapes in operands that may have them -/
  inner : Escapes
  /-- binary digits of numbers with decimals -/
  precision : Nat
  describe : Trouble → Octets
  /-- what is said of a directive that is not known -/
  unknown : Octets → Octets
  missing : Octets
  /-- `l` and its like may stand in front of a conversion -/
  sizes : Bool
  /-- how texts are quoted, if there is a conversion for that -/
  quoted? : Option (Octets → Octets) := none

structure Directive where
  flags : List Char := []
  width : Option Int := none
  precision : Option Int := none

namespace Directive

def has (d : Directive) (c : Char) : Bool := d.flags.contains c

def isLeft (d : Directive) : Bool := d.has '-' || (d.width.map (decide <| · < 0)).getD false

def size (d : Directive) : Nat := (d.width.map Int.natAbs).getD 0

def places? (d : Directive) : Option Nat :=
  d.precision.bind fun n => if n < 0 then none else some n.toNat

/-- Fills up to the width. -/
def pad (d : Directive) (zeros : Bool) (sign body : Octets) : Octets :=
  let missing := d.size - (sign.length + body.length)
  let fill (c : Char) : Octets := String.ofList (List.replicate missing c)
  if d.isLeft then sign ++ body ++ fill ' '
  else if zeros && d.has '0' then sign ++ fill '0' ++ body
  else fill ' ' ++ sign ++ body

def signOf (d : Directive) (negative : Bool) : Octets :=
  if negative then "-" else if d.has '+' then "+" else if d.has ' ' then " " else ""

def text (d : Directive) (s : Octets) : Octets :=
  let s := match d.places? with
    | some n => (s.take n).toString
    | none => s
  d.pad false "" s

/-- Digits of a whole number, at least as many as are asked for. -/
def digits (d : Directive) (s : Octets) (isZero : Bool) : Octets :=
  match d.places? with
  | some n => if n = 0 && isZero then "" else Binary.padFront n s
  | none => s

def signed (d : Directive) (n : Int) : Octets :=
  d.pad d.places?.isNone (d.signOf (n < 0)) (d.digits (toString n.natAbs) (n = 0))

def unsigned (d : Directive) (conversion : Char) (n : Nat) : Octets :=
  let base := if conversion = 'o' then 8 else if conversion = 'u' then 10 else 16
  let s := String.ofList (Nat.toDigits base n)
  let s := if conversion = 'X' then s.toUpper else s
  let s := d.digits s (n = 0)
  let s := if conversion = 'o' && d.has '#' && !s.startsWith "0" then "0" ++ s else s
  let mark := if d.has '#' && n ≠ 0 && base = 16 then if conversion = 'X' then "0X" else "0x" else ""
  d.pad d.places?.isNone mark s

/-- A number in base sixteen with an exponent of two. -/
def hexFloat (d : Directive) (upper : Bool) (mantissa : Nat) (exponent : Int) : Octets × Octets :=
  let (m, e) : Nat × Int := if mantissa = 0 then (0, 0)
    else
      let shift := 53 - Binary.width mantissa
      (mantissa * 2 ^ shift, exponent - shift + 52)
  let all := Binary.padFront 14 (String.ofList (Nat.toDigits 16 m))
  let decimals := (all.drop 1).toString
  let decimals := match d.places? with
    | some n => (Binary.padFront 0 (decimals.take n).toString)
    | none => String.ofList (decimals.toList.reverse.dropWhile (· = '0')).reverse
  let body := (all.take 1).toString ++ (if decimals = "" then "" else "." ++ decimals) ++
    "p" ++ (if e < 0 then "-" else "+") ++ toString e.natAbs
  if upper then ("0X", body.toUpper) else ("0x", body)

def floating (d : Directive) (conversion : Char) (x : Binary) : Octets :=
  let upper := conversion.isUpper
  let sign := d.signOf x.isNegative
  let word (s : Octets) : Octets := d.pad false sign (if upper then s.toUpper else s)
  match x with
  | .infinite _ => word "inf"
  | .notNumber _ => word "nan"
  | .finite _ m e =>
    let places := d.places?.getD 6
    match conversion.toLower with
    | 'f' => d.pad true sign (Binary.fixed places (d.has '#') m e)
    | 'e' => d.pad true sign (Binary.scientific places (d.has '#') upper m e)
    | 'a' =>
      let (mark, body) := d.hexFloat upper m e
      d.pad true (sign ++ mark) body
    | _ => d.pad true sign (Binary.general places (d.has '#') upper m e)

end Directive

/-! ## Operands as numbers -/

def isSpace (c : Char) : Bool := c = ' ' || ('\t' ≤ c && c ≤ '\r')

def digitIn (base : Nat) (c : Char) : Bool :=
  ((Escapes.hexValue? c).map (decide <| · < base)).getD false

/-- The number that digits of a base stand for. -/
def numberOf (base : Nat) (ds : List Char) : Nat :=
  ds.foldl (fun n c => n * base + (Escapes.hexValue? c).getD 0) 0

/-- A whole number in front, in a base that it tells itself: whether it is negative, what it
is, and what is behind; none without digits. -/
def wholeNumber (s : List Char) : Option (Bool × Nat × List Char) :=
  let cs := s.dropWhile isSpace
  let (negative, cs) := match cs with
    | '-' :: rest => (true, rest)
    | '+' :: rest => (false, rest)
    | cs => (false, cs)
  let (base, ds) := match cs with
    | '0' :: x :: d :: rest =>
      if (x = 'x' || x = 'X') && digitIn 16 d then (16, d :: rest) else (8, cs)
    | '0' :: _ => (8, cs)
    | cs => (10, cs)
  let (found, rest) := ds.span (digitIn base)
  if found.isEmpty then none else some (negative, numberOf base found, rest)

/-- A number with decimals in front, and what is behind. -/
def decimalNumber (precision : Nat) (s : List Char) : Option (Binary × List Char) :=
  let cs := s.dropWhile isSpace
  let (negative, cs) := match cs with
    | '-' :: rest => (true, rest)
    | '+' :: rest => (false, rest)
    | cs => (false, cs)
  let lower := cs.map Char.toLower
  if "infinity".toList.isPrefixOf lower then some (.infinite negative, cs.drop 8)
  else if "inf".toList.isPrefixOf lower then some (.infinite negative, cs.drop 3)
  else if "nan".toList.isPrefixOf lower then some (.notNumber negative, cs.drop 3)
  else
    let exponentOf (mark : Char) (cs : List Char) : Int × List Char :=
      match cs with
      | e :: rest =>
        if e.toLower ≠ mark then (0, cs)
        else
          let (minus, ds) := match rest with
            | '-' :: ds => (true, ds)
            | '+' :: ds => (false, ds)
            | ds => (false, ds)
          let (found, behind) := ds.span Char.isDigit
          if found.isEmpty then (0, cs)
          else
            let n : Int := numberOf 10 (found.take 6)
            (if minus then -n else n, behind)
      | [] => (0, [])
    let split (base : Nat) (cs : List Char) : List Char × List Char × List Char :=
      let (whole, rest) := cs.span (digitIn base)
      match rest with
      | '.' :: more =>
        let (decimals, behind) := more.span (digitIn base)
        if whole.isEmpty && decimals.isEmpty then ([], [], cs) else (whole, decimals, behind)
      | rest => (whole, [], rest)
    match lower with
    | '0' :: 'x' :: d :: _ =>
      if digitIn 16 d || d = '.' then
        let (whole, decimals, rest) := split 16 (cs.drop 2)
        let (e, rest) := exponentOf 'p' rest
        let n := numberOf 16 (whole ++ decimals)
        let shift : Int := e - 4 * decimals.length
        let (num, den) := Binary.quotient n shift
        some (Binary.ofQuotient precision negative num den, rest)
      else some (.finite negative 0 0, cs.drop 1)
    | _ =>
      let (whole, decimals, rest) := split 10 cs
      if whole.isEmpty && decimals.isEmpty then none
      else
        let (e, rest) := exponentOf 'e' rest
        let n := numberOf 10 (whole ++ decimals)
        some (Binary.ofDecimal precision negative n (e - decimals.length), rest)

/-! ## Writing -/

/-- What has been written, what went wrong, and the operands that are left. -/
structure Progress where
  output : Octets := ""
  errors : List Octets := []
  failed : Bool := false
  operands : List Octets
  /-- nothing more is written -/
  stopped : Bool := false

def complain (st : Style) (t : Trouble) (p : Progress) : Progress :=
  { p with errors := p.errors ++ [st.describe t], failed := true }

/-- The next operand, and what is left. -/
def takeOperand (p : Progress) : Option Octets × Progress :=
  match p.operands with
  | [] => (none, p)
  | s :: rest => (some s, { p with operands := rest })

def checkRest (st : Style) (s : Octets) (rest : List Char) (p : Progress) : Progress :=
  if rest.isEmpty then p else complain st (.rest s) p

def wholeOperand (st : Style) (isSigned : Bool) (p : Progress) : Int × Progress :=
  match takeOperand p with
  | (none, p) => (0, p)
  | (some s, p) =>
    match s.toList with
    | '"' :: rest | '\x27' :: rest => ((((rest.head?.map Char.toNat).getD 0 : Nat) : Int), p)
    | cs =>
      match wholeNumber cs with
      | none => (0, if s = "" then p else complain st (.notNumber s) p)
      | some (negative, n, rest) =>
        let p := checkRest st s rest p
        let value : Int := if negative then -(n : Int) else n
        let least : Int := if isSigned then -(2 ^ 63) else -(2 ^ 64) + 1
        let most : Int := if isSigned then 2 ^ 63 - 1 else 2 ^ 64 - 1
        if value < least then (least, complain st (.outOfRange s) p)
        else if most < value then (most, complain st (.outOfRange s) p)
        else (if isSigned then value else value % 2 ^ 64, p)

def decimalOperand (st : Style) (p : Progress) : Binary × Progress :=
  match takeOperand p with
  | (none, p) => (.finite false 0 0, p)
  | (some s, p) =>
    match s.toList with
    | '"' :: rest | '\x27' :: rest => (.finite false ((rest.head?.map Char.toNat).getD 0) 0, p)
    | cs =>
      match decimalNumber st.precision cs with
      | none => (.finite false 0 0, if s = "" then p else complain st (.notNumber s) p)
      | some (x, rest) => (x, checkRest st s rest p)

/-- A width or precision in front: a number, or the next operand. -/
def sizeOf (st : Style) (cs : List Char) (p : Progress) : Option Int × List Char × Progress :=
  match cs with
  | '*' :: rest =>
    let (n, p) := wholeOperand st true p
    (some n, rest, p)
  | cs =>
    let (ds, rest) := cs.span Char.isDigit
    (if ds.isEmpty then none else some (numberOf 10 ds), rest, p)

def emit (p : Progress) (s : Octets) : Progress := { p with output := p.output ++ s }

/-- Writes an operand as a directive says. -/
def convert (st : Style) (d : Directive) (conversion : Char) (whole : Octets) (p : Progress) :
    Progress :=
  match conversion with
  | 's' =>
    let (s?, p) := takeOperand p
    emit p (d.text (s?.getD ""))
  | 'b' =>
    let (s?, p) := takeOperand p
    let (s, stopped) := st.inner.replaceIn (s?.getD "")
    { emit p (d.text s) with stopped }
  | 'c' =>
    let (s?, p) := takeOperand p
    let s := match s? with
      | some s => if s = "" then "\x00" else (s.take 1).toString
      | none => "\x00"
    emit p (d.pad false "" s)
  | 'd' | 'i' =>
    let (n, p) := wholeOperand st true p
    emit p (d.signed n)
  | 'o' | 'u' | 'x' | 'X' =>
    let (n, p) := wholeOperand st false p
    emit p (d.unsigned conversion n.toNat)
  | 'e' | 'E' | 'f' | 'F' | 'g' | 'G' | 'a' | 'A' =>
    let (x, p) := decimalOperand st p
    emit p (d.floating conversion x)
  | 'q' =>
    match st.quoted? with
    | some quoted =>
      let (s?, p) := takeOperand p
      emit p (quoted (s?.getD ""))
    | none => { p with errors := p.errors ++ [st.unknown whole], failed := true, stopped := true }
  | _ => { p with errors := p.errors ++ [st.unknown whole], failed := true, stopped := true }

/-- Writes the template once. -/
def pass (st : Style) : (fuel : Nat) → List Char → Progress → Progress
  | 0, _, p => p
  | _, [], p => p
  | fuel + 1, c :: rest, p =>
    if p.stopped then p
    else if c = '\\' then
      match st.escapes.read rest with
      | some (s, rest) => pass st fuel rest (emit p s)
      | none => { p with stopped := true }
    else if c ≠ '%' then
      let (run, rest) := rest.span fun c => c ≠ '\\' && c ≠ '%'
      pass st fuel rest (emit p (String.ofList (c :: run)))
    else
      match rest with
      | '%' :: rest => pass st fuel rest (emit p "%")
      | rest =>
        let (flags, behind) := rest.span fun c => "#-+ 0'".toList.contains c
        let (width, behind, p) := sizeOf st behind p
        let (precision, behind, p) := match behind with
          | '.' :: more =>
            let (precision, behind, p) := sizeOf st more p
            (some (precision.getD 0), behind, p)
          | behind => (none, behind, p)
        let behind := if st.sizes then behind.dropWhile fun c => "hlLjzt".toList.contains c
          else behind
        match behind with
        | [] => { p with errors := p.errors ++ [st.missing], failed := true, stopped := true }
        | conversion :: behind =>
          let whole := String.ofList ('%' :: rest.take (rest.length - behind.length))
          pass st fuel behind (convert st { flags, width, precision } conversion whole p)

/-- Writes the template until the operands are used up. -/
def run (st : Style) (template : Octets) : (fuel : Nat) → Progress → Progress
  | 0, p => p
  | fuel + 1, p =>
    let after := pass st (template.length + 1) template.toList p
    if after.stopped || after.operands.isEmpty || after.operands.length = p.operands.length then
      after
    else run st template fuel after

def format (st : Style) (template : Octets) (operands : List Octets) : Progress :=
  run st template (operands.length + 1) { operands }

/-- As the shell's own formatter does it. -/
def plainStyle : Style :=
  { escapes := { zeroFirst := false, hexadecimal := false, stops := false, escape := true }
    inner := plainEscapes
    precision := 53
    describe := fun
      | .notNumber s => s ++ ": expected numeric value"
      | .rest s => s ++ ": not completely converted"
      | .outOfRange s => s ++ ": Numerical result out of range"
    unknown := (· ++ ": invalid directive")
    missing := "missing format character"
    sizes := false }

def quote (s : Octets) : Octets := "'" ++ s ++ "'"

/-- As the formatter of the system does it. -/
def richStyle : Style :=
  { escapes :=
      { zeroFirst := false, hexadecimal := true, stops := true, escape := true, quotes := true }
    inner := { richEscapes with quotes := true }
    precision := 64
    describe := fun
      | .notNumber s => quote s ++ ": expected a numeric value"
      | .rest s => quote s ++ ": value not completely converted"
      | .outOfRange s => quote s ++ ": Numerical result out of range"
    unknown := (· ++ ": invalid conversion specification")
    missing := "%: invalid conversion specification"
    sizes := true }

end AssetWatch.Utility.Format
