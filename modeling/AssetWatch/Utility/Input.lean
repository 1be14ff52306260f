import AssetWatch.Power
import AssetWatch.Utility.Tool

/-!
# Input of utilities

Files that are read one after the other, the lines in them, and the numbers that options take.
-/

namespace AssetWatch.Utility

open Host (Fault)

/-! ## Lines -/

/-- A text cut behind each end of a line. -/
def pieces (ending : Char) (text : Octets) : List Octets :=
  let all := text.splitOn ending.toString
  let whole := all.dropLast.map (·.push ending)
  match all.getLast? with
  | some last => if last = "" then whole else whole ++ [last]
  | none => whole

/-- The lines of a text, without what ends them. -/
def linesOf (ending : Char) (text : Octets) : List Octets :=
  let all := text.splitOn ending.toString
  if all.getLast? == some "" then all.dropLast else all

/-- Lines with what ends each. -/
def joinLines (ending : Char) (lines : List Octets) : Octets :=
  String.join (lines.map (·.push ending))

def reverseText (s : Octets) : Octets := String.ofList s.toList.reverse

def replicate (count : Nat) (c : Char) : Octets := String.ofList (List.replicate count c)

/-- Fills a text up with blanks in front. -/
def padLeft (width : Nat) (s : Octets) : Octets := replicate (width - s.length) ' ' ++ s

/-- Fills a text up with blanks behind. -/
def padRight (width : Nat) (s : Octets) : Octets := s ++ replicate (width - s.length) ' '

/-! ## Files -/

/-- Reads files one after the other; one that cannot be read is told of and left out. -/
def readFiles (report : Octets → Fault → Octets) (paths : List Octets) :
    Tool (List (Octets × Octets)) := do
  let mut found : Array (Octets × Octets) := #[]
  for path in if paths.isEmpty then ["-"] else paths do
    match ← Tool.readFile path with
    | .ok text => found := found.push (path, text)
    | .error fault => Tool.complain (report path fault)
  return found.toList

def plainReport (path : Octets) (fault : Fault) : Octets := s!"{showName path}: {fault.text}"

/-- All that files hold. -/
def readTogether (paths : List Octets) : Tool Octets := do
  return String.join ((← readFiles plainReport paths).map (·.2))

/-! ## Numbers -/

def isDigits (s : Octets) : Bool := s ≠ "" && s.all Char.isDigit

/-- What a suffix multiplies by. -/
def multiplier? (suffix : Octets) : Option Nat :=
  let letters := ['K', 'M', 'G', 'T', 'P', 'E', 'Z', 'Y']
  match suffix.toList with
  | [] => some 1
  | ['b'] => some 512
  | ['c'] => some 1
  | ['w'] => some 2
  | c :: rest =>
    let c := if c = 'k' then 'K' else c
    (letters.findIdx? (· = c)).bind fun n =>
      match rest with
      | [] | ['i', 'B'] => some (1024 ^ (n + 1))
      | ['B'] => some (1000 ^ (n + 1))
      | _ => none

/-- A number with a suffix. -/
def sized? (s : Octets) : Option Nat :=
  let digits := (s.takeWhile Char.isDigit).toString
  let suffix := (s.drop digits.length).toString
  digits.toNat?.bind fun n => (multiplier? suffix).map (n * ·)

/-- A whole number with a sign. -/
def integer? (s : Octets) : Option Int :=
  match s.toList with
  | '-' :: rest => if isDigits (String.ofList rest) then (String.ofList rest).toNat?.map fun n => -(n : Int) else none
  | '+' :: rest => if isDigits (String.ofList rest) then (String.ofList rest).toNat?.map fun n => (n : Int) else none
  | _ => if isDigits s then s.toNat?.map fun n => (n : Int) else none

end AssetWatch.Utility
