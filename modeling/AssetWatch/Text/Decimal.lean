import AssetWatch.Power

/-!
# Decimal text of binary fractions

A finite 64-bit float stands for one rational number and for the interval of reals that
round to it. Its text has the fewest digits of any decimal in that interval, the nearest
such decimal to the value, and is always written positionally, without an exponent.
-/

namespace AssetWatch.Text.Decimal

/-- A positive float as a fraction, with the ends of the interval that rounds to it. -/
structure Interval where
  low : Nat
  value : Nat
  high : Nat
  unit : Nat
  /-- the ends themselves round to the value -/
  closed : Bool

/-- The interval of the positive finite float with these bits. -/
def Interval.ofBits (bits : Nat) : Interval :=
  let exponent : Nat := bits / 2 ^ 52 % 2 ^ 11
  let fraction : Nat := bits % 2 ^ 52
  let mantissa : Nat := if exponent = 0 then fraction else 2 ^ 52 + fraction
  let below := if fraction = 0 ∧ 1 < exponent then 1 else 2
  let shift : Int := ((max exponent 1 : Nat) : Int) - 1077
  let scale : Nat := 2 ^ shift.toNat
  { low := (4 * mantissa - below) * scale
    value := 4 * mantissa * scale
    high := (4 * mantissa + 2) * scale
    unit := 2 ^ (-shift).toNat
    closed := mantissa % 2 == 0 }

/-- The decimal `digits * 10 ^ grid` rounds to the value. -/
def Interval.holds (i : Interval) (digits : Nat) (grid : Int) : Bool :=
  let d := digits * 10 ^ grid.toNat * i.unit
  let s := 10 ^ (-grid).toNat
  if i.closed then i.low * s ≤ d && d ≤ i.high * s else i.low * s < d && d < i.high * s

/-- How many leading places after the point are zero, counting the first that is not. -/
def Interval.leadingPlaces (i : Interval) : Nat → Nat
  | 0 => 0
  | fuel + 1 => if i.unit ≤ i.value then 0 else
      ({ i with value := i.value * 10 } : Interval).leadingPlaces fuel + 1

/-- The least `k` with the value below `10 ^ k`. -/
def Interval.magnitude (i : Interval) : Int :=
  if i.unit ≤ i.value then ((Nat.toDigits 10 (i.value / i.unit)).length : Int)
  else 1 - (i.leadingPlaces 400 : Int)

/-- The nearer of the two decimals around the value on a grid, if it rounds to the value; from
the middle, the larger. -/
def Interval.onGrid (i : Interval) (grid : Int) : Option Nat :=
  let u := i.unit * 10 ^ grid.toNat
  let v := i.value * 10 ^ (-grid).toNat
  let floor := v / u
  match i.holds floor grid && 0 < floor, i.holds (floor + 1) grid with
  | true, true => if 2 * v < (2 * floor + 1) * u then some floor else some (floor + 1)
  | true, false => some floor
  | false, true => some (floor + 1)
  | false, false => none

/-- Tries one digit more at a time. -/
def Interval.search (i : Interval) (magnitude : Int) : (left : Nat) → (count : Nat) → Nat × Int
  | 0, count => (i.value * 10 ^ count / i.unit, -(count : Int))
  | left + 1, count =>
    match i.onGrid (magnitude - count) with
    | some digits => (digits, magnitude - count)
    | none => i.search magnitude left (count + 1)

/-- The fewest digits that round to the value, and the power of ten they count. -/
def Interval.shortest (i : Interval) : Nat × Int := i.search i.magnitude 17 1

/-- `digits * 10 ^ grid` without an exponent. -/
def positional (digits : Nat) (grid : Int) : String :=
  let ds := Nat.toDigits 10 digits
  if 0 ≤ grid then String.ofList (ds ++ List.replicate grid.toNat '0')
  else
    let places := (-grid).toNat
    let padded := List.replicate (places + 1 - ds.length) '0' ++ ds
    let fraction := (padded.drop (padded.length - places)).reverse.dropWhile (· = '0')
    let whole := padded.take (padded.length - places)
    if fraction.isEmpty then String.ofList whole
    else String.ofList (whole ++ '.' :: fraction.reverse)

/-- A float's shortest text: `1.5`, `2`, `-0`, `inf`, `NaN`. -/
def shortest (x : Float) : String :=
  let bits := x.toBits.toNat
  let magnitude := bits % 2 ^ 63
  let sign := if bits < 2 ^ 63 then "" else "-"
  if 2047 * 2 ^ 52 < magnitude then "NaN"
  else if magnitude = 2047 * 2 ^ 52 then sign ++ "inf"
  else if magnitude = 0 then sign ++ "0"
  else
    let (digits, grid) := (Interval.ofBits magnitude).shortest
    sign ++ positional digits grid

/-- The shortest text, with a fraction even when it is zero. -/
def fractional (x : Float) : String :=
  let text := shortest x
  if text.toList.all (fun c => c.isDigit || c = '-') then text ++ ".0" else text

/-- The float nearest to `digits * 10 ^ exponent`; beyond the largest it is infinite. -/
def toFloat (digits : Nat) (exponent : Int) : Float :=
  let size : Int := (Nat.toDigits 10 digits).length + exponent
  if digits = 0 ∨ size < -400 then 0
  else if 400 < size then 1 / 0
  else if 0 ≤ exponent then Float.ofScientific digits false exponent.toNat
  else Float.ofScientific digits true (-exponent).toNat

end AssetWatch.Text.Decimal
