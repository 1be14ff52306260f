import AssetWatch.Config.Load

/-!
# The command line

Options that choose the project come in front of the command, and options of a command behind
it. An option takes its value from the same argument or from the next one, which must not
look like an option itself. The first argument that is wrong, or that asks for help or the
version, decides.
-/

namespace AssetWatch.Cli

inductive Command
  | watch (skipInitialBuild : Bool)
  | build (categories : List String)
  | check
  | plan (categories : List String)
  deriving DecidableEq

structure Arguments where
  config : Path := Config.defaultPath
  root : Path := ⟨"."⟩
  environment : Option String := none
  command : Command := .watch false

/-- What a help text is asked for. -/
inductive Topic
  | program
  | watch
  | build
  | check
  | plan
  | help
  deriving DecidableEq

/-- Why the arguments name no command to run. -/
inductive Refusal
  | help (topic : Topic)
  | version
  /-- the arguments are wrong -/
  | usage

/-- An option as it is written: its short and long name. -/
structure OptionName where
  short : Char
  long : String

namespace OptionName

/-- Whether an argument is this option, and the value it carries. -/
def read? (o : OptionName) (arg : String) : Option (Option String) :=
  if arg = "--" ++ o.long then some none
  else if arg.startsWith ("--" ++ o.long ++ "=") then
    some (some (String.ofList (arg.toList.drop (o.long.length + 3))))
  else match arg.toList with
    | '-' :: c :: rest =>
      if c ≠ o.short then none
      else match rest with
        | [] => some none
        | '=' :: value => some (some (String.ofList value))
        | value => some (some (String.ofList value))
    | _ => none

end OptionName

/-- An argument that cannot be the value of an option in front of it. -/
def looksLikeOption (arg : String) : Bool := arg.startsWith "-" && arg ≠ "-"

/-- The value of an option, and the arguments behind it. -/
def valueOf (carried : Option String) (rest : List String) :
    Except Refusal (String × List String) :=
  match carried, rest with
  | some value, rest => .ok (value, rest)
  | none, value :: rest => if looksLikeOption value then .error .usage else .ok (value, rest)
  | none, [] => .error .usage

/-- A value that is a path must not be empty. -/
def pathOf (value : String) : Except Refusal Path :=
  if value = "" then .error .usage else .ok ⟨value⟩

theorem length_valueOf {carried : Option String} {rest : List String} {found : String × List String}
    (h : valueOf carried rest = .ok found) : found.2.length ≤ rest.length := by
  unfold valueOf at h
  split at h
  · cases h; exact Nat.le_refl _
  · split at h
    · cases h
    · cases h; exact Nat.le_succ _
  · cases h

/-! ## Options of commands -/

/-- A flag whose letter stands first in an argument of short options. -/
def isShort (letter : Char) (arg : String) : Bool :=
  match arg.toList with
  | '-' :: c :: _ => c = letter
  | _ => false

def asksForHelp (arg : String) : Bool := arg = "--help" || isShort 'h' arg

/-- The categories that a command is limited to. -/
def categoriesOf (topic : Topic) (taken : List String) (args : List String) :
    Except Refusal (List String) :=
  match args with
  | [] => .ok taken
  | arg :: rest =>
    if arg = "--" then (if rest.isEmpty then .ok taken else .error .usage)
    else if asksForHelp arg then .error (.help topic)
    else match OptionName.read? ⟨'C', "category"⟩ arg with
      | none => .error .usage
      | some carried =>
        match _h : valueOf carried rest with
        | .error refusal => .error refusal
        | .ok (value, rest) => categoriesOf topic (taken ++ [value]) rest
termination_by args.length
decreasing_by exact Nat.lt_succ_of_le (length_valueOf (by assumption))

/-- The arguments of a command without options that take a value: how often its one flag is
given. -/
def flagsOf (topic : Topic) (flag : Option String) (count : Nat) : List String → Except Refusal Nat
  | [] => .ok count
  | arg :: rest =>
    if arg = "--" then (if rest.isEmpty then .ok count else .error .usage)
    else if asksForHelp arg then .error (.help topic)
    else if some arg = flag then
      if count = 0 then flagsOf topic flag 1 rest else .error .usage
    else .error .usage

def topicOf? (name : String) : Option Topic :=
  match name with
  | "watch" => some .watch
  | "build" => some .build
  | "check" => some .check
  | "plan" => some .plan
  | "help" => some .help
  | _ => none

/-- The command that is named, with its options. -/
def commandOf (name : String) (rest : List String) : Except Refusal Command :=
  match topicOf? name with
  | some .watch => (flagsOf .watch (some "--skip-initial-build") 0 rest).map fun n => .watch (n ≠ 0)
  | some .build => (categoriesOf .build [] rest).map .build
  | some .check => (flagsOf .check none 0 rest).map fun _ => .check
  | some .plan => (categoriesOf .plan [] rest).map .plan
  | some .help =>
    match rest with
    | [] => .error (.help .program)
    | [inner] =>
      match topicOf? inner with
      | some topic => .error (.help topic)
      | none => .error .usage
    | _ => .error .usage
  | some .program | none => .error .usage

/-! ## Options of the program -/

/-- What was given so far; an option must not be given twice. -/
structure Given where
  config : Option Path := none
  root : Option Path := none
  environment : Option String := none

def Given.finish (g : Given) (command : Command) : Arguments :=
  let defaults : Arguments := {}
  { config := g.config.getD defaults.config
    root := g.root.getD defaults.root
    environment := g.environment
    command }

/-- Which option of the program an argument is, and the value it carries. -/
inductive ProgramOption
  | config (carried : Option String)
  | root (carried : Option String)
  | environment (carried : Option String)

def ProgramOption.read? (arg : String) : Option ProgramOption :=
  ((OptionName.read? ⟨'c', "config"⟩ arg).map .config).or <|
  ((OptionName.read? ⟨'r', "root"⟩ arg).map .root).or <|
  (OptionName.read? ⟨'e', "env"⟩ arg).map .environment

def ProgramOption.carried : ProgramOption → Option String
  | .config carried | .root carried | .environment carried => carried

/-- Keeps the value of an option. -/
def Given.keep (g : Given) (option : ProgramOption) (value : String) : Except Refusal Given :=
  match option with
  | .config _ => do
    let path ← pathOf value
    if g.config.isSome then throw .usage
    return { g with config := some path }
  | .root _ => do
    let path ← pathOf value
    if g.root.isSome then throw .usage
    return { g with root := some path }
  | .environment _ =>
    if g.environment.isSome then .error .usage
    else .ok { g with environment := some value }

def read (g : Given) (args : List String) : Except Refusal Arguments :=
  match args with
  | [] => .ok (g.finish (.watch false))
  | arg :: rest =>
    if arg = "--" then (if rest.isEmpty then .ok (g.finish (.watch false)) else .error .usage)
    else if asksForHelp arg then .error (.help .program)
    else if arg = "--version" || isShort 'V' arg then .error .version
    else match ProgramOption.read? arg with
      | some option =>
        match _h : valueOf option.carried rest with
        | .error refusal => .error refusal
        | .ok (value, rest) =>
          match g.keep option value with
          | .error refusal => .error refusal
          | .ok g => read g rest
      | none => if looksLikeOption arg then .error .usage else (commandOf arg rest).map g.finish
termination_by args.length
decreasing_by exact Nat.lt_succ_of_le (length_valueOf (by assumption))

/-- Reads the arguments. The environment may also be given by a variable. -/
def Arguments.parse (chosen? : Option String) (args : List String) : Except Refusal Arguments := do
  let arguments ← read {} args
  return { arguments with environment := arguments.environment.or chosen? }

end AssetWatch.Cli
