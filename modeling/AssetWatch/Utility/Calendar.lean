import AssetWatch.Utility.Input

/-!
# Dates

Times are microseconds since the beginning of 1970; days are those of the Gregorian calendar.
-/

namespace AssetWatch.Utility

/-! ## Reading -/

def digitsOf (s : Octets) : Nat := s.foldl (fun n c => n * 10 + (c.toNat - '0'.toNat)) 0

/-- Days since the beginning of 1970. -/
def daysOf (year month day : Nat) : Nat :=
  let y := if month ≤ 2 then year - 1 else year
  let era := y / 400
  let inEra := y - era * 400
  let m := if month ≤ 2 then month + 9 else month - 3
  let inYear := (153 * m + 2) / 5 + day - 1
  era * 146097 + (inEra * 365 + inEra / 4 - inEra / 100 + inYear) - 719468

/-- A time given as digits: year, month, day, hour and minute, and seconds behind a point. -/
def stamp? (text : Octets) : Option Nat :=
  let (front, seconds) := match text.splitOn "." with
    | [front, seconds] => (front, seconds)
    | _ => (text, "00")
  let front := if front.length = 10 then "20" ++ front else if front.length = 8 then "2025" ++ front
    else front
  if front.length ≠ 12 || !isDigits front || !isDigits seconds then none
  else
    let part (first count : Nat) : Nat := digitsOf ((front.drop first).take count).toString
    let days := daysOf (part 0 4) (part 4 2) (part 6 2)
    some ((days * 86400 + part 8 2 * 3600 + part 10 2 * 60 + digitsOf seconds) * 1000000)

/-- A time given as a date, with a time of day if there is one. -/
def dateTime? (text : Octets) : Option Nat :=
  if text.startsWith "@" then
    (text.drop 1).toNat?.map (· * 1000000)
  else
    let digits := text.toList.filter Char.isDigit
    let isPlain := text.all fun c => c.isDigit || "-:T ".toList.contains c
    let s := String.ofList digits
    if !isPlain then none
    else if digits.length = 8 then stamp? (s ++ "0000")
    else if digits.length = 12 then stamp? s
    else if digits.length = 14 then stamp? ((s.take 12).toString ++ "." ++ (s.drop 12).toString)
    else none

/-- A length of time, by the name of its unit. -/
def unit? (name : Octets) : Option Nat :=
  match (if name.endsWith "s" then (name.dropEnd 1).toString else name) with
  | "sec" | "second" => some 1000000
  | "min" | "minute" => some 60000000
  | "hour" => some 3600000000
  | "day" => some 86400000000
  | "week" => some 604800000000
  | "fortnight" => some 1209600000000
  | _ => none

/-- The words without `ago` in front, and whether it was there. -/
def dropAgo : List Octets → Bool × List Octets
  | "ago" :: rest => (true, rest)
  | rest => (false, rest)

/-- Moves a time as words say: `2 days ago`, `+1 hour`, `next week`. -/
def shifted? : (fuel : Nat) → Nat → List Octets → Option Nat
  | 0, _, _ => none
  | _, time, [] => some time
  | fuel + 1, time, word :: rest =>
    let move (count : Int) (unit : Nat) (rest : List Octets) : Option Nat :=
      let (isBack, rest) := dropAgo rest
      let length := if isBack then -count * unit else count * unit
      shifted? fuel ((time : Int) + length).toNat rest
    match word with
    | "now" | "today" | "UTC" | "Z" | "GMT" => shifted? fuel time rest
    | "yesterday" => shifted? fuel (time - 86400000000) rest
    | "tomorrow" => shifted? fuel (time + 86400000000) rest
    | word =>
      let count? : Option Int := if word = "next" then some 1 else if word = "last" then some (-1)
        else integer? word
      match count?, rest with
      | some count, name :: rest => (unit? name).bind fun unit => move count unit rest
      | _, _ => (unit? word).bind fun unit => move 1 unit rest

/-- A date as people write it, seen from now. -/
def written? (now : Nat) (text : Octets) : Option Nat :=
  let words := (text.splitOn " ").filter (· ≠ "")
  let isDate (word : Octets) : Bool := (dateTime? word).isSome
  match words with
  | [] => some (now - now % 86400000000)
  | [word] => (dateTime? word).orElse fun _ => shifted? 2 now [word]
  | day :: time :: rest =>
    let whole := s!"{day} {time}"
    if isDate day && (dateTime? whole).isSome && time.contains ':' then
      (dateTime? whole).bind fun time => shifted? (rest.length + 1) time rest
    else if isDate day && !(isDigits day && day.length < 8) then
      (dateTime? day).bind fun start => shifted? words.length start (time :: rest)
    else shifted? (words.length + 1) now words

/-! ## Writing -/

/-- A point in time, in parts. -/
structure Moment where
  year : Nat
  month : Nat
  day : Nat
  hour : Nat
  minute : Nat
  second : Nat
  micro : Nat
  /-- days since the beginning of the year -/
  dayOfYear : Nat
  /-- zero on Sundays -/
  weekday : Nat

namespace Moment

def ofTime (time : Nat) : Moment :=
  let seconds := time / 1000000
  let days := seconds / 86400
  let rest := seconds % 86400
  let z := days + 719468
  let era := z / 146097
  let inEra := z % 146097
  let yearInEra := (inEra - inEra / 1460 + inEra / 36524 - inEra / 146096) / 365
  let inYear := inEra - (365 * yearInEra + yearInEra / 4 - yearInEra / 100)
  let m := (5 * inYear + 2) / 153
  let day := inYear - (153 * m + 2) / 5 + 1
  let month := if m < 10 then m + 3 else m - 9
  let year := yearInEra + era * 400 + (if month ≤ 2 then 1 else 0)
  { year, month, day
    hour := rest / 3600
    minute := rest / 60 % 60
    second := rest % 60
    micro := time % 1000000
    dayOfYear := days - daysOf year 1 1
    weekday := (days + 4) % 7 }

def weekdays : List Octets :=
  ["Sunday", "Monday", "Tuesday", "Wednesday", "Thursday", "Friday", "Saturday"]

def months : List Octets :=
  ["January", "February", "March", "April", "May", "June", "July", "August", "September", "October",
    "November", "December"]

def weekdayName (m : Moment) : Octets := weekdays.getD m.weekday ""

def monthName (m : Moment) : Octets := months.getD (m.month - 1) ""

def short (name : Octets) : Octets := (name.take 3).toString

def fill (c : Char) (width n : Nat) : Octets :=
  let digits := toString n
  replicate (width - digits.length) c ++ digits

/-- The year and the number of the week, by the rule that weeks begin on Mondays and belong to
the year that has most of their days. -/
def weekOf (m : Moment) : Nat × Nat :=
  let fromMonday := (m.weekday + 6) % 7
  let number : Int := ((m.dayOfYear : Int) - fromMonday + 10) / 7
  let weeksIn (year : Nat) : Nat :=
    let first := (daysOf year 1 1 + 4) % 7
    let isLeap := (year % 4 = 0 && year % 100 ≠ 0) || year % 400 = 0
    if first = 4 || (first = 3 && isLeap) then 53 else 52
  if number < 1 then (m.year - 1, weeksIn (m.year - 1))
  else if weeksIn m.year < number.toNat then (m.year + 1, 1)
  else (m.year, number.toNat)

/-- How numbers are filled up, if this is told. -/
inductive Filling
  | usual
  | none
  | with (c : Char)

def number (filling : Filling) (c : Char) (width n : Nat) : Octets :=
  match filling with
  | .usual => fill c width n
  | .none => toString n
  | .with c => fill c width n

/-- The text of one mark of a format, if there is such a mark. -/
def mark? (m : Moment) (time : Nat) (filling : Filling) (c : Char) : Option Octets :=
  let two (n : Nat) : Octets := number filling '0' 2 n
  let blank (n : Nat) : Octets := number filling ' ' 2 n
  let pair (n : Nat) : Octets := fill '0' 2 n
  let clock : Octets := s!"{pair m.hour}:{pair m.minute}:{pair m.second}"
  let half := if m.hour < 12 then "AM" else "PM"
  let twelve := if m.hour % 12 = 0 then 12 else m.hour % 12
  match c with
  | 'Y' => some (toString m.year)
  | 'C' => some (two (m.year / 100))
  | 'y' => some (two (m.year % 100))
  | 'm' => some (two m.month)
  | 'd' => some (two m.day)
  | 'e' => some (blank m.day)
  | 'H' => some (two m.hour)
  | 'k' => some (blank m.hour)
  | 'I' => some (two twelve)
  | 'l' => some (blank twelve)
  | 'M' => some (two m.minute)
  | 'S' => some (two m.second)
  | 's' => some (toString (time / 1000000))
  | 'N' => some (fill '0' 9 (m.micro * 1000))
  | 'j' => some (number filling '0' 3 (m.dayOfYear + 1))
  | 'a' => some (short m.weekdayName)
  | 'A' => some m.weekdayName
  | 'b' | 'h' => some (short m.monthName)
  | 'B' => some m.monthName
  | 'F' => some s!"{m.year}-{pair m.month}-{pair m.day}"
  | 'D' | 'x' => some s!"{pair m.month}/{pair m.day}/{pair (m.year % 100)}"
  | 'T' | 'X' => some clock
  | 'R' => some s!"{pair m.hour}:{pair m.minute}"
  | 'r' => some s!"{pair twelve}:{pair m.minute}:{pair m.second} {half}"
  | 'c' => some (s!"{short m.weekdayName} {short m.monthName} " ++ fill ' ' 2 m.day ++
    s!" {clock} {m.year}")
  | 'p' => some half
  | 'P' => some (if m.hour < 12 then "am" else "pm")
  | 'Z' => some "UTC"
  | 'z' => some "+0000"
  | 'u' => some (toString (if m.weekday = 0 then 7 else m.weekday))
  | 'w' => some (toString m.weekday)
  | 'q' => some (toString ((m.month - 1) / 3 + 1))
  | 'U' => some (two ((m.dayOfYear + 7 - m.weekday) / 7))
  | 'W' => some (two ((m.dayOfYear + 7 - (m.weekday + 6) % 7) / 7))
  | 'V' => some (two m.weekOf.2)
  | 'G' => some (toString m.weekOf.1)
  | 'g' => some (two (m.weekOf.1 % 100))
  | 'n' => some "\n"
  | 't' => some "\t"
  | '%' => some "%"
  | _ => none

/-- Fills a format in. -/
def format (time : Nat) : (fuel : Nat) → List Char → Octets
  | 0, _ => ""
  | _, [] => ""
  | fuel + 1, '%' :: rest =>
    let flags := rest.takeWhile fun c => "-_0^#".toList.contains c
    let behind := rest.drop flags.length
    let digits := behind.takeWhile Char.isDigit
    let behind := behind.drop digits.length
    let colons := behind.takeWhile (· = ':')
    match behind.drop colons.length with
    | [] => String.ofList ('%' :: rest)
    | c :: more =>
      let filling : Filling := match flags.getLast? with
        | some '-' => .none
        | some '_' => .with ' '
        | some '0' => .with '0'
        | _ => .usual
      let text := match (Moment.ofTime time).mark? time filling c with
        | some text =>
          let text := if c = 'N' && !digits.isEmpty then
            (text.take ((String.ofList digits).toNat?.getD 9)).toString else text
          let text := if c = 'z' && !colons.isEmpty then "+00:00" else text
          if flags.contains '^' then text.map Char.toUpper else text
        | none => String.ofList ('%' :: flags ++ digits ++ colons ++ [c])
      text ++ format time fuel more
  | fuel + 1, c :: rest => c.toString ++ format time fuel rest

end Moment

/-- A time in a format. -/
def dateText (format : Octets) (time : Nat) : Octets :=
  Moment.format time (format.length + 1) format.toList

end AssetWatch.Utility
