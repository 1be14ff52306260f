/-!
# Texts of octets

Processes exchange octets. A text of octets has one character for each, so that the character
of an octet is the one with its number; a Unicode text becomes the octets of its UTF-8 form.
Octets that are no such form are read with a replacement for what cannot be understood.
-/

namespace AssetWatch

/-- A text whose characters stand for octets. -/
abbrev Octets := String

namespace Octets

def charOf (b : UInt8) : Char := Char.ofNat b.toNat

def ofBytes (bytes : ByteArray) : Octets :=
  bytes.foldl (fun s b => s.push (charOf b)) ""

def bytes (s : Octets) : ByteArray :=
  s.foldl (fun bytes c => bytes.push c.toNat.toUInt8) ByteArray.empty

/-- The octets of a Unicode text. -/
def ofText (s : String) : Octets := ofBytes s.toUTF8

/-- Bytes that continue a character, of those in front. -/
def continued (bytes : List UInt8) (low high : UInt8) : Bool :=
  match bytes with
  | b :: _ => low ≤ b && b ≤ high
  | [] => false

/-- How many octets make up the character in front, and whether it is well formed. -/
def span : List UInt8 → Nat × Bool
  | [] => (1, false)
  | b :: rest =>
    let follow (count : Nat) (low high : UInt8) : Nat × Bool :=
      if !continued rest low high then (1, false)
      else
        let good := ((rest.drop 1).take (count - 1)).takeWhile fun b => 0x80 ≤ b && b ≤ 0xBF
        (good.length + 2, good.length + 1 == count)
    if b < 0x80 then (1, true)
    else if b < 0xC2 then (1, false)
    else if b < 0xE0 then follow 1 0x80 0xBF
    else if b = 0xE0 then follow 2 0xA0 0xBF
    else if b = 0xED then follow 2 0x80 0x9F
    else if b < 0xF0 then follow 2 0x80 0xBF
    else if b = 0xF0 then follow 3 0x90 0xBF
    else if b < 0xF4 then follow 3 0x80 0xBF
    else if b = 0xF4 then follow 3 0x80 0x8F
    else (1, false)

/-- Reads octets, with a replacement for each stretch that is not well formed. -/
def lossy : (count : Nat) → List UInt8 → String → String
  | 0, _, taken => taken
  | _, [], taken => taken
  | count + 1, bytes, taken =>
    let (length, isGood) := span bytes
    let piece := if isGood then
      (String.fromUTF8? ⟨(bytes.take length).toArray⟩).getD "\uFFFD" else "\uFFFD"
    lossy count (bytes.drop length) (taken ++ piece)

/-- The Unicode text of octets. -/
def text (s : Octets) : String :=
  if s.toList.all (fun c => c.toNat < 128) then s
  else
    let bytes := bytes s
    (String.fromUTF8? bytes).getD (lossy bytes.size bytes.toList "")

/-- The lines of a text; what ends a line is not part of it, and an end without a line
behind it makes none. -/
def lines (s : Octets) : List Octets :=
  let pieces := s.splitOn "\n"
  if pieces.getLast? == some "" then pieces.dropLast else pieces

end Octets

end AssetWatch
