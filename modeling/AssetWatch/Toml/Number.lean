import AssetWatch.Text.Decimal
import AssetWatch.Toml.Scanner

/-!
# Numbers

An integer fits into 64 bits with a sign and has no leading zero; in base 16, 8 or 2 it has
no sign. A float has a fraction, an exponent or both, or is `inf` or `nan`. A decimal too
large for a float is refused, while one too far below zero is minus infinity.
-/

namespace AssetWatch.Toml

open Text (Decimal.toFloat)

/-- A sign: whether it is a minus. -/
def sign : List Char → Bool × List Char
  | '-' :: rest => (true, rest)
  | '+' :: rest => (false, rest)
  | s => (false, s)

def fits (n : Int) : Bool := -(2 ^ 63) ≤ n && n < 2 ^ 63

/-- Decimal digits without a leading zero. -/
def wholeDigits : Reader (List Char) := fun s => do
  let (digits, rest) ← digitsWhere Char.isDigit s
  if digits.head? = some '0' ∧ digits ≠ ['0'] then none else some (digits, rest)

def basedInteger (base : Nat) (accept : Char → Bool) : Reader Int := fun s => do
  let (digits, rest) ← digitsWhere accept s
  let n : Int := numeral base digits
  if fits n then some (n, rest) else none

def integer : Reader Int := fun s =>
  match s with
  | '0' :: 'x' :: rest => basedInteger 16 isHexDigit rest
  | '0' :: 'o' :: rest => basedInteger 8 (fun c => '0' ≤ c && c ≤ '7') rest
  | '0' :: 'b' :: rest => basedInteger 2 (fun c => c == '0' || c == '1') rest
  | _ => do
    let (minus, rest) := sign s
    let (digits, rest) ← wholeDigits rest
    let n : Int := numeral 10 digits
    let n := if minus then -n else n
    if fits n then some (n, rest) else none

/-- An exponent behind its letter. -/
def exponent : Reader Int := fun s => do
  let (minus, rest) := sign s
  let (digits, rest) ← digitsWhere Char.isDigit rest
  let n : Int := numeral 10 digits
  return (if minus then -n else n, rest)

/-- What makes a decimal a float: its places behind the point and its exponent. -/
def floatTail : Reader (List Char × Int) := fun s =>
  let mark (c : Char) := c == 'e' || c == 'E'
  match s with
  | '.' :: rest => do
    let (places, rest) ← digitsWhere Char.isDigit rest
    match rest with
    | c :: more =>
      if mark c then (exponent more).map fun (n, left) => ((places, n), left)
      else some ((places, 0), rest)
    | [] => some ((places, 0), [])
  | c :: rest => if mark c then (exponent rest).map fun (n, left) => (([], n), left) else none
  | [] => none

def float : Reader Float := fun s =>
  let (minus, rest) := sign s
  match rest with
  | 'i' :: 'n' :: 'f' :: rest => some (if minus then -(1 / 0) else 1 / 0, rest)
  | 'n' :: 'a' :: 'n' :: rest => some (0 / 0, rest)
  | _ => do
    let (digits, rest) ← wholeDigits rest
    let ((places, exponent), rest) ← floatTail rest
    let x := Decimal.toFloat (numeral 10 (digits ++ places)) (exponent - places.length)
    if minus then some (-x, rest)
    else if x.isInf then none
    else some (x, rest)

end AssetWatch.Toml
