import AssetWatch.Shell.Builtin.Basic
import AssetWatch.Utility.Condition
import AssetWatch.Utility.Format

/-!
# Builtins that write and compare
-/

namespace AssetWatch.Shell.Builtin

open AssetWatch.Utility

/-- The words with their escapes replaced, up to an escape that ends all writing. -/
def echoText (line : Bool) : List Octets → Octets
  | [] => if line then "\n" else ""
  | [word] =>
    let (text, stops) := plainEscapes.replaceIn word
    if stops || !line then text else text ++ "\n"
  | word :: rest =>
    let (text, stops) := plainEscapes.replaceIn word
    if stops then text else text ++ " " ++ echoText line rest

def echo (words : List Octets) : Sh Nat :=
  match words.drop 1 with
  | "-n" :: words => print (echoText false words)
  | words => print (echoText true words)

def printf (words : List Octets) : Sh Nat := do
  match (← readOptions "" words).2 with
  | [] => Sh.fail "usage: printf format [arg ...]"
  | template :: operands =>
    let made := Format.format Format.plainStyle template operands
    let written ← print made.output
    for text in made.errors do Sh.warn text
    if made.stopped && made.failed then throw (.error 2)
    return if made.failed || written ≠ 0 then 1 else 0

/-- How the shell words what is wrong with a condition. -/
def conditionStyle : Condition.Style :=
  { unexpected := fun last _ => last ++ ": unexpected operator"
    missing := (· ++ ": argument expected")
    unclosed := "closing paren expected"
    notNumber := ("Illegal number: " ++ ·) }

def test (words : List Octets) : Sh Nat := do
  let operands ←
    if words.head? == some "[" then
      if words.getLast? == some "]" && 1 < words.length then pure (words.drop 1).dropLast
      else Sh.fail "missing ]"
    else pure (words.drop 1)
  match Condition.parse conditionStyle operands with
  | .error text => Sh.fail text
  | .ok c =>
    match ← Sh.lift (c.holds conditionStyle Arithmetic.decimal?) with
    | .error text => Sh.fail text
    | .ok holds => return if holds then 0 else 1

def output : List Builtin := [
  { name := "echo", run := fun _ => echo },
  { name := "printf", run := fun _ => printf },
  { name := "test", run := fun _ => test },
  { name := "[", run := fun _ => test },
  { name := ":", isSpecial := true, run := fun _ _ => pure 0 },
  { name := "true", run := fun _ _ => pure 0 },
  { name := "false", run := fun _ _ => pure 1 }]

end AssetWatch.Shell.Builtin
