import AssetWatch.Toml.Scanner

/-!
# Dates and times

A date, a time of day, or a date with a time and perhaps an offset. The spelling that is
kept is the standard one: `T` between date and time, `Z` or hours and minutes for the
offset, and a fraction of at most nine places without zeros at its end.
-/

namespace AssetWatch.Toml

/-- Exactly `count` digits with a value in the range. -/
def digitsIn (count low high : Nat) : Reader Nat := fun s =>
  let ds := s.take count
  let n := numeral 10 ds
  if ds.length = count ∧ ds.all Char.isDigit ∧ low ≤ n ∧ n ≤ high then some (n, s.drop count)
  else none

def expect (c : Char) : List Char → Option (List Char)
  | [] => none
  | d :: rest => if c = d then some rest else none

/-- A number in at least `width` digits. -/
def padded (width n : Nat) : String :=
  let ds := Nat.toDigits 10 n
  String.ofList (List.replicate (width - ds.length) '0' ++ ds)

def isLeapYear (year : Nat) : Bool := year % 4 == 0 && (year % 100 != 0 || year % 400 == 0)

def daysIn (year month : Nat) : Nat :=
  if month = 2 then (if isLeapYear year then 29 else 28)
  else if month = 4 ∨ month = 6 ∨ month = 9 ∨ month = 11 then 30
  else 31

def date : Reader String := fun s => do
  let (year, s) ← digitsIn 4 0 9999 s
  let (month, s) ← digitsIn 2 1 12 (← expect '-' s)
  let (day, s) ← digitsIn 2 1 (daysIn year month) (← expect '-' s)
  return (s!"{padded 4 year}-{padded 2 month}-{padded 2 day}", s)

/-- A fraction of a second, cut at nine places. -/
def secondFraction : Reader String := fun s =>
  match s with
  | '.' :: rest =>
    let digits := rest.takeWhile Char.isDigit
    let kept := ((digits.take 9).reverse.dropWhile (· = '0')).reverse
    if digits.isEmpty then none
    else some (if kept.isEmpty then "" else "." ++ String.ofList kept, rest.drop digits.length)
  | _ => some ("", s)

/-- A time of day; the second may be a sixtieth. -/
def time : Reader String := fun s => do
  let (hour, s) ← digitsIn 2 0 23 s
  let (minute, s) ← digitsIn 2 0 59 (← expect ':' s)
  let (second, s) ← digitsIn 2 0 60 (← expect ':' s)
  let (fraction, s) ← secondFraction s
  return (s!"{padded 2 hour}:{padded 2 minute}:{padded 2 second}{fraction}", s)

/-- An offset, if there is one; `none` if it is begun and broken. -/
def offset : Reader String := fun s =>
  let numeric (sign : Char) (rest : List Char) : Option (String × List Char) := do
    let (hour, rest) ← digitsIn 2 0 23 rest
    let (minute, rest) ← digitsIn 2 0 59 (← expect ':' rest)
    let sign := if hour = 0 ∧ minute = 0 then '+' else sign
    return (s!"{sign}{padded 2 hour}:{padded 2 minute}", rest)
  match s with
  | 'Z' :: rest | 'z' :: rest => some ("Z", rest)
  | '+' :: rest => numeric '+' rest
  | '-' :: rest => numeric '-' rest
  | _ => some ("", s)

def moment : Reader String := fun s =>
  match date s with
  | none => time s
  | some (day, rest) =>
    match rest with
    | c :: more =>
      if c = 'T' ∨ c = 't' ∨ c = ' ' then
        match time more with
        | some (clock, rest) => (offset rest).map fun (zone, rest) => (s!"{day}T{clock}{zone}", rest)
        | none => some (day, rest)
      else some (day, rest)
    | [] => some (day, [])

end AssetWatch.Toml
