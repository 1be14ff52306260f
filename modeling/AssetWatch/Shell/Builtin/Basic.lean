import AssetWatch.Shell.Engine

/-!
# Builtins

What the shell does itself is a builtin: it is given the words of its command, its name in
front, and gives a status. Here are the readers of options and numbers that builtins share, and
the ways in which they write.
-/

namespace AssetWatch.Shell

structure Builtin where
  name : String
  /-- a mistake in it ends the shell, and assignments in front of it stay -/
  isSpecial : Bool := false
  /-- its words may be assignments -/
  assigns : Bool := false
  run : Engine → List Octets → Sh Nat

namespace Builtin

/-! ## Options and numbers -/

/-- Whether a letter is an option, and whether a value belongs to it. -/
def kindOf (letters : List Char) (c : Char) : Option Bool :=
  match letters with
  | [] => none
  | l :: rest =>
    if l = c && c ≠ ':' then some (rest.head? == some ':') else kindOf rest c

/-- The options in one word, whose values may be in the next one. -/
def optionsIn (letters : List Char) : List Char → List Octets →
    Sh (List (Char × Octets) × List Octets)
  | [], rest => pure ([], rest)
  | c :: more, rest =>
    match kindOf letters c, more, rest with
    | none, _, _ => Sh.fail s!"Illegal option -{c}"
    | some false, more, rest => do
      let (found, rest) ← optionsIn letters more rest
      return ((c, "") :: found, rest)
    | some true, [], [] => Sh.fail s!"No arg for -{c} option"
    | some true, [], value :: rest => pure ([(c, value)], rest)
    | some true, more, rest => pure ([(c, String.ofList more)], rest)

/-- The options in front of the operands, and the operands. -/
def options (letters : String) : (fuel : Nat) → List Octets →
    Sh (List (Char × Octets) × List Octets)
  | 0, words => pure ([], words)
  | fuel + 1, words =>
    match words with
    | [] => pure ([], [])
    | word :: rest =>
      match word.toList with
      | '-' :: '-' :: [] => pure ([], rest)
      | '-' :: c :: more => do
        let (found, rest) ← optionsIn letters.toList (c :: more) rest
        let (others, rest) ← options letters fuel rest
        return (found ++ others, rest)
      | _ => pure ([], word :: rest)

/-- The options and operands of a command. -/
def readOptions (letters : String) (words : List Octets) :
    Sh (List (Char × Octets) × List Octets) :=
  options letters (words.length + 1) (words.drop 1)

/-- A number that is not negative. -/
def number (text : Octets) : Sh Nat :=
  match Arithmetic.decimal? text with
  | some n => if 0 ≤ n && n ≤ 2147483647 then pure n.toNat else Sh.fail s!"Illegal number: {text}"
  | none => Sh.fail s!"Illegal number: {text}"

/-! ## Writing -/

/-- Writes to the output of the command. -/
def print (text : Octets) : Sh Nat := do
  if text = "" then return 0
  match ← Sh.write 1 text with
  | .ok _ => return 0
  | .error _ =>
    let name := (← get).builtin?.getD ""
    Sh.warn s!"{name}: I/O error"
    return 1

/-- A text in quotes that the shell reads back. -/
def quoted (text : Octets) : Octets :=
  String.intercalate "" (pieces text.toList.length text.toList)
where
  pieces : Nat → List Char → List Octets
    | 0, _ => ["''"]
    | fuel + 1, cs =>
      let (plain, rest) := cs.span (· ≠ '\x27')
      let (marks, rest) := rest.span (· = '\x27')
      let front := "'" ++ String.ofList plain ++ "'"
      if marks.isEmpty then [front]
      else
        let middle := "\"" ++ String.ofList marks ++ "\""
        front :: middle :: (if rest.isEmpty then [] else pieces fuel rest)

/-- Variables as the shell reads them back, behind a word. -/
def listVariables (word : Octets) (pass : Variable → Bool) : Sh Nat := do
  let vs := ((← get).values.filter pass).mergeSort fun v w => v.name ≤ w.name
  let front := if word = "" then "" else word ++ " "
  print <| String.join <| vs.map fun v =>
    match v.value? with
    | some value => s!"{front}{v.name}={quoted value}\n"
    | none => if word = "" then "" else s!"{front}{v.name}\n"

end Builtin

end AssetWatch.Shell
