import AssetWatch.Power

/-!
# Binary numbers in decimal

A binary number is a whole number times a power of two. Decimals are rounded to the nearest
binary number of so many digits, a tie to the even one; binary numbers are written exactly, or
rounded to so many decimals in the same way.
-/

namespace AssetWatch.Text

/-- A quotient rounded to the nearest whole number, a tie to the even one. -/
def divRound (num den : Nat) : Nat :=
  let q := num / den
  let twice := 2 * (num % den)
  if twice < den then q
  else if den < twice then q + 1
  else if q % 2 = 0 then q else q + 1

inductive Binary
  /-- `mantissa * 2 ^ exponent` -/
  | finite (negative : Bool) (mantissa : Nat) (exponent : Int)
  | infinite (negative : Bool)
  | notNumber (negative : Bool)
  deriving Inhabited

namespace Binary

/-- The number of binary digits. -/
def width (n : Nat) : Nat := if n = 0 then 0 else n.log2 + 1

/-- The nearest number of so many binary digits to a quotient. -/
def ofQuotient (digits : Nat) (negative : Bool) (num den : Nat) : Binary :=
  if num = 0 then .finite negative 0 0
  else
    let shift : Int := (digits : Int) - ((width num : Int) - (width den : Int))
    let scaled (shift : Int) : Nat × Nat :=
      if 0 ≤ shift then (num * 2 ^ shift.toNat, den) else (num, den * 2 ^ (-shift).toNat)
    let (a, b) := scaled shift
    let shift := if 2 ^ digits ≤ a / b then shift - 1 else shift
    let (a, b) := scaled shift
    let most : Int := 16400
    let m := divRound a b
    if most < -shift then .infinite negative else .finite negative m (-shift)

/-- The nearest number to `mantissa * 10 ^ exponent`. -/
def ofDecimal (digits : Nat) (negative : Bool) (mantissa : Nat) (exponent : Int) : Binary :=
  if mantissa = 0 then .finite negative 0 0
  else if 5000 < exponent then .infinite negative
  else if exponent < -6000 then .finite negative 0 0
  else if 0 ≤ exponent then ofQuotient digits negative (mantissa * 10 ^ exponent.toNat) 1
  else ofQuotient digits negative mantissa (10 ^ (-exponent).toNat)

def isNegative : Binary → Bool
  | .finite negative _ _ | .infinite negative | .notNumber negative => negative

/-- Numerator and denominator of the absolute value. -/
def quotient (mantissa : Nat) (exponent : Int) : Nat × Nat :=
  if 0 ≤ exponent then (mantissa * 2 ^ exponent.toNat, 1) else (mantissa, 2 ^ (-exponent).toNat)

/-- The number of a float. -/
def ofFloat (x : Float) : Binary :=
  let bits := x.toBits.toNat
  let negative := 2 ^ 63 ≤ bits
  let exponent : Nat := bits / 2 ^ 52 % 2048
  let fraction := bits % 2 ^ 52
  if exponent = 2047 then if fraction = 0 then .infinite negative else .notNumber negative
  else if exponent = 0 then .finite negative fraction (-1074)
  else .finite negative (2 ^ 52 + fraction) ((exponent : Int) - 1075)

/-! ## Writing -/

def padFront (width : Nat) (s : String) : String :=
  String.ofList (List.replicate (width - s.length) '0') ++ s

/-- With so many decimals; `point` keeps the point without them. -/
def fixed (places : Nat) (point : Bool) (mantissa : Nat) (exponent : Int) : String :=
  let (num, den) := quotient mantissa exponent
  let all := padFront (places + 1) (toString (divRound (num * 10 ^ places) den))
  let whole := (all.take (all.length - places)).toString
  let decimals := (all.drop (all.length - places)).toString
  if places = 0 then if point then whole ++ "." else whole else whole ++ "." ++ decimals

/-- The exponent of ten of a quotient, roughly: at most one too small. -/
def magnitude (num den : Nat) : Int :=
  let difference : Int := (width num : Int) - (width den : Int) - 1
  (difference * 30103) / 100000

/-- So many significant digits, and the exponent of the first. -/
def significant (digits mantissa : Nat) (exponent : Int) : Nat × Int :=
  if mantissa = 0 then (0, 0)
  else
    let (num, den) := quotient mantissa exponent
    let at10 (e : Int) : Nat × Nat :=
      let shift : Int := (digits : Int) - 1 - e
      if 0 ≤ shift then (num * 10 ^ shift.toNat, den) else (num, den * 10 ^ (-shift).toNat)
    let rounded (e : Int) : Nat := divRound (at10 e).1 (at10 e).2
    let isLess (e : Int) : Bool := (at10 e).1 < 10 ^ (digits - 1) * (at10 e).2
    let guess := magnitude num den + 1
    let e := if !isLess guess then guess
      else if !isLess (guess - 1) then guess - 1
      else guess - 2
    let r := rounded e
    if 10 ^ digits ≤ r then (r / 10, e + 1) else (r, e)

def exponentText (upper : Bool) (e : Int) : String :=
  (if upper then "E" else "e") ++ (if e < 0 then "-" else "+") ++
    padFront 2 (toString e.natAbs)

/-- One digit in front of the point, so many behind it, and an exponent. -/
def scientific (places : Nat) (point upper : Bool) (mantissa : Nat) (exponent : Int) : String :=
  let (digits, e) := significant (places + 1) mantissa exponent
  let all := padFront (places + 1) (toString digits)
  let decimals := (all.drop 1).toString
  (all.take 1).toString ++ (if decimals ≠ "" then "." ++ decimals else if point then "." else "") ++
    exponentText upper e

/-- Without zeros at the end of the decimals. -/
def trimZeros (s : String) : String :=
  if s.toList.contains '.' then
    let cut := s.toList.reverse.dropWhile (· = '0')
    String.ofList (if cut.head? = some '.' then cut.drop 1 else cut).reverse
  else s

/-- At most so many significant digits, in the shorter of the two forms. -/
def general (digits : Nat) (keep upper : Bool) (mantissa : Nat) (exponent : Int) : String :=
  let digits := max digits 1
  let (_, e) := significant digits mantissa exponent
  if e < -4 || (digits : Int) ≤ e then
    let text := scientific (digits - 1) keep upper mantissa exponent
    if keep then text
    else
      let mark := if upper then 'E' else 'e'
      let front := String.ofList (text.toList.takeWhile (· ≠ mark))
      trimZeros front ++ (text.drop front.length).toString
  else
    let text := fixed ((digits : Int) - 1 - e).toNat keep mantissa exponent
    if keep then text else trimZeros text

end Binary

end AssetWatch.Text
