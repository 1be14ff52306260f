import AssetWatch.Shell.Evaluation

/-!
# The shell as a program

It carries out the text that follows `-c`, or the file that its first operand names, or else
what it reads.
-/

namespace AssetWatch.Shell

open Host (Program Proc)

/-- What is to be carried out. -/
inductive Script
  | text (text : Octets)
  | file (path : Octets)
  | input

/-- The variables that a shell begins with. -/
def firstVariables (parent : Nat) (bindings : List (Octets × Octets)) : List Variable :=
  let own : List Variable := [
    { name := "IFS", value? := some " \t\n" }, { name := "OPTIND", value? := some "1" },
    { name := "PATH", value? := some "/usr/local/sbin:/usr/local/bin:/usr/sbin:/usr/bin:/sbin:/bin" },
    { name := "PS1", value? := some "# " }, { name := "PS2", value? := some "> " },
    { name := "PS4", value? := some "+ " }]
  let given := (bindings.filter fun (name, _) => isName name && name ≠ "IFS").map fun (name, value) =>
    { name, value? := some value, isExported := true : Variable }
  let others := own.filter fun v => !given.any (·.name == v.name)
  { name := "PPID", value? := some (toString parent) } ::
    (others ++ given.reverse).filter (·.name ≠ "PPID")

/-- The options in front, with what is to be carried out if they tell it, and the operands. -/
def commandLine : (fuel : Nat) → (asText : Bool) → List Octets → Sh (Bool × List Octets)
  | 0, asText, words => pure (asText, words)
  | fuel + 1, asText, words =>
    match words with
    | [] => pure (asText, [])
    | word :: rest =>
      match word.toList with
      | ['-'] | ['-', '-'] => pure (asText, rest)
      | sign :: letters =>
        if sign ≠ '-' && sign ≠ '+' then pure (asText, words)
        else do
          let known (c : Char) : Option (Sh Unit) :=
            if c = 'c' || c = 'l' then some (pure ()) else none
          let rest ← Builtin.setLetters (sign = '-') known letters rest
          commandLine fuel (asText || letters.contains 'c') rest
      | [] => pure (asText, words)

/-- Takes what is to be carried out, and the parameters, from the command line. -/
def begin (words : List Octets) : Sh Script := do
  let (asText, operands) ← commandLine (words.length + 1) false (words.drop 1)
  let named (operands : List Octets) : Sh Unit := modify fun s =>
    match operands with
    | name :: rest => { s with name, parameters := rest }
    | [] => s
  match asText, operands with
  | true, [] => Sh.fail "-c requires an argument"
  | true, text :: rest =>
    named rest
    return .text text
  | false, [] =>
    Builtin.setFlag 's' true
    return .input
  | false, operands =>
    if (← get).has 's' then
      modify fun s => { s with parameters := operands }
      return .input
    else
      let path := operands.headD ""
      modify fun s => { s with parameters := operands.drop 1 }
      return .file path

/-- Carries out all of a script. -/
def runScript (e : Engine) (words : List Octets) : Sh Nat := do
  let script ← begin words
  let whole (flags : Flags) (text : Octets) : Sh Nat := do
    modify fun s => { s with line := 1 }
    runText e flags text
  match script with
  | .text text => whole { exits := !(← get).has 's' } text
  | .input => whole {} (String.join (← readAll 0 Reader.enough []).reverse)
  | .file path =>
    let text ← Builtin.scriptText path
    modify fun s => { s with name := path }
    whole {} text

/-- Learns where the shell is and what it does not hear. -/
def prepare : Sh Unit := do
  let path ← Builtin.physicalPath
  let known := (← get).get "PWD"
  let here := (← Sh.ask (.status "." true)).toOption.map (·.number)
  let there ←
    if known.startsWith "/" then do
      pure ((← Sh.ask (.status known true)).toOption.map (·.number))
    else pure none
  let directory := if there.isSome && there == here then known else path
  modify fun s => { s with directory }
  modify fun s => s.assign "PWD" directory true
  for signal in [1, 2, 3, 13, 15] do
    let disposition : Host.Disposition ← Sh.ask (.disposition signal)
    if disposition = .ignored then
      modify fun s => { s with deaf := signal :: s.deaf }

/-- The shell. -/
def program : Program := fun args bindings => do
  let (id, parent) ← Proc.ask .identity
  let s : State := {
    name := args.headD "sh"
    id
    line := 0
    values := firstVariables parent bindings }
  let whole : Sh Nat := do
    prepare
    finish engine (← Sh.attempt (runScript engine args))
  fun next => whole s fun result _ =>
    match result with
    | .ok status => next status
    | .error _ => next 2

end AssetWatch.Shell
