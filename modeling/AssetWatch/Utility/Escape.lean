import AssetWatch.Text.Octets

/-!
# Escapes in texts

A backslash with what follows it stands for a character. Utilities differ in which escapes
they know.
-/

namespace AssetWatch.Utility

/-- The escapes of a utility. -/
structure Escapes where
  /-- a zero in front of three digits of base eight does not count -/
  zeroFirst : Bool
  /-- digits of base sixteen behind `x` are known -/
  hexadecimal : Bool
  /-- nothing more is written after `c` -/
  stops : Bool
  /-- `e` is known -/
  escape : Bool
  /-- quotes may be escaped -/
  quotes : Bool := false

namespace Escapes

def isOctal (c : Char) : Bool := '0' ≤ c && c ≤ '7'

def hexValue? (c : Char) : Option Nat :=
  if c.isDigit then some (c.toNat - '0'.toNat)
  else if 'a' ≤ c && c ≤ 'f' then some (c.toNat - 'a'.toNat + 10)
  else if 'A' ≤ c && c ≤ 'F' then some (c.toNat - 'A'.toNat + 10)
  else none

def octal (ds : List Char) : Char :=
  Char.ofNat (ds.foldl (fun n c => n * 8 + (c.toNat - '0'.toNat)) 0 % 256)

def hexadecimalChar (ds : List Char) : Char :=
  Char.ofNat (ds.foldl (fun n c => n * 16 + (hexValue? c).getD 0) 0 % 256)

/-- What an escape stands for, from behind its backslash, and what is behind it; no text means
that nothing more is written. -/
def read (e : Escapes) (cs : List Char) : Option (Octets × List Char) :=
  match cs with
  | [] => some ("\\", [])
  | c :: rest =>
    let one (d : Char) : Option (Octets × List Char) := some (d.toString, rest)
    match c with
    | 'a' => one '\x07'
    | 'b' => one '\x08'
    | 'f' => one '\x0c'
    | 'n' => one '\n'
    | 'r' => one '\r'
    | 't' => one '\t'
    | 'v' => one '\x0b'
    | '\\' => one '\\'
    | 'c' => if e.stops then none else some ("\\c", rest)
    | 'e' => if e.escape then one '\x1b' else some ("\\e", rest)
    | '"' => if e.quotes then one '"' else some ("\\\"", rest)
    | 'x' =>
      let ds := (rest.takeWhile fun d => (hexValue? d).isSome).take 2
      if e.hexadecimal && !ds.isEmpty then
        some ((hexadecimalChar ds).toString, rest.drop ds.length)
      else some ("\\x", rest)
    | c =>
      if !isOctal c then some (String.ofList ['\\', c], rest)
      else if e.zeroFirst && c = '0' then
        let ds := (rest.takeWhile isOctal).take 3
        some ((octal ds).toString, rest.drop ds.length)
      else
        let ds := ((c :: rest).takeWhile isOctal).take 3
        some ((octal ds).toString, (c :: rest).drop ds.length)

/-- A text with its escapes replaced, and whether one of them ends all writing. -/
def replace (e : Escapes) : (fuel : Nat) → List Char → Octets → Octets × Bool
  | 0, _, taken => (taken, false)
  | _, [], taken => (taken, false)
  | fuel + 1, c :: rest, taken =>
    if c = '\\' then
      match e.read rest with
      | some (text, rest) => replace e fuel rest (taken ++ text)
      | none => (taken, true)
    else replace e fuel rest (taken.push c)

def replaceIn (e : Escapes) (s : Octets) : Octets × Bool :=
  if s.toList.contains '\\' then e.replace (s.length + 1) s.toList "" else (s, false)

end Escapes

/-- The escapes of the shell's own `echo`, and of `%b`. -/
def plainEscapes : Escapes :=
  { zeroFirst := true, hexadecimal := false, stops := true, escape := true }

/-- The escapes of the `echo` of the system. -/
def richEscapes : Escapes :=
  { zeroFirst := true, hexadecimal := true, stops := true, escape := true }

end AssetWatch.Utility
