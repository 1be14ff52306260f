import AssetWatch.Host.Call
import AssetWatch.Host.Signal
import AssetWatch.Shell.Lexer

/-!
# The state of a shell

Variables, functions, traps, jobs and options, and how far the shell is from where it goes on
after `break`, `continue` or `return`. What a shell does is an action of a process that also
changes this state, and that may stop the shell.
-/

namespace AssetWatch.Shell

open Host (Call Ending Fault Proc Task)

structure Variable where
  name : Octets
  /-- none for one that was only declared -/
  value? : Option Octets
  isExported : Bool := false
  isReadOnly : Bool := false

/-- A process of the background, with how it ended. -/
structure JobProcess where
  id : Nat
  ending? : Option Ending := none

structure Job where
  number : Nat
  processes : List JobProcess
  text : Octets := ""

/-- Where the shell goes on. -/
inductive Skip
  | none
  | break (levels : Nat)
  | continue (levels : Nat)
  | function
  deriving DecidableEq

/-- Why a shell stops. -/
inductive Stop
  | exit (status : Nat)
  /-- a mistake that was reported -/
  | error (status : Nat)

/-- What variables were before a command or function, the last change in front. -/
abbrev Frame := List (Octets × Option Variable)

structure Function where
  name : Octets
  line : Nat
  body : Command

/-- How far `getopts` has come within an argument. -/
structure OptionScan where
  index : Nat := 1
  offset : Nat := 0

structure State where
  name : Octets
  id : Nat := 0
  values : List Variable := []
  frames : List Frame := []
  functions : List Function := []
  aliases : List (Octets × Octets) := []
  documents : Array Word := #[]
  parameters : List Octets := []
  /-- the letters of the options that are set -/
  flags : List Char := []
  status : Nat := 0
  lastJob? : Option Nat := none
  jobs : List Job := []
  /-- signals with the commands that they cause, the end of the shell as signal 0 -/
  traps : List (Nat × Octets) := []
  /-- signals that were ignored when the shell began -/
  deaf : List Nat := []
  /-- caught signals whose traps have not been carried out -/
  pending : List Nat := []
  /-- the status to end with, while a trap is carried out -/
  kept? : Option Nat := none
  /-- the path by which the shell came to its directory -/
  directory : Octets := ""
  /-- where programs were found that have been run -/
  remembered : List (Octets × Octets) := []
  line : Nat := 1
  /-- the builtin that runs -/
  builtin? : Option Octets := none
  skip : Skip := .none
  loops : Nat := 0
  /-- descriptors to be put back, the last in front; none for one that was closed -/
  saved : List (List (Nat × Option Nat)) := []
  scan : OptionScan := {}
  /-- the status of the command substitution that was last, if there was one -/
  substituted? : Option Nat := none

/-- An action of a shell. -/
def Sh (α : Type) : Type := State → (Except Stop α → State → Task) → Task

namespace Sh

instance : Monad Sh where
  pure a := fun s next => next (.ok a) s
  bind m f := fun s next => m s fun result s =>
    match result with
    | .ok a => f a s next
    | .error stop => next (.error stop) s

instance : MonadStateOf State Sh where
  get := fun s next => next (.ok s) s
  set s := fun _ next => next (.ok ()) s
  modifyGet f := fun s next =>
    let (a, s) := f s
    next (.ok a) s

instance : MonadExceptOf Stop Sh where
  throw stop := fun s next => next (.error stop) s
  tryCatch m handle := fun s next => m s fun result s =>
    match result with
    | .ok a => next (.ok a) s
    | .error stop => handle stop s next

instance {α : Type} : Inhabited (Sh α) := ⟨throw (.error 2)⟩

/-- What comes of an action, be it that it stops the shell. -/
def attempt {α : Type} (m : Sh α) : Sh (Except Stop α) := fun s next =>
  m s fun result s => next (.ok result) s

def ask (c : Call) : Sh c.Reply := fun s next => .call c fun reply => next (.ok reply) s

def tick : Sh Unit := ask .tick

/-- An action of a process. -/
def lift {α : Type} (m : Proc α) : Sh α := fun s next => m fun a => next (.ok a) s

def exit {α : Type} (status : Nat) : Sh α := throw (.exit status)

/-! ## Messages -/

/-- Writes all of a text to a descriptor; what cannot be written is lost. -/
def write (descriptor : Nat) (text : Octets) : Sh (Except Fault Unit) :=
  ask (.write descriptor text.bytes)

def warnPlain (text : Octets) : Sh Unit := do
  let _ ← write 2 (text ++ "\n")

/-- Reports a mistake, with where it was noticed. -/
def warn (text : Octets) : Sh Unit := do
  let s ← get
  let command := match s.builtin? with
    | some name => name ++ ": "
    | none => ""
  warnPlain s!"{s.name}: {s.line}: {command}{text}"

/-- Ends the shell; within a trap with the status from before it. -/
def leave {α : Type} : Sh α := do
  let s ← get
  exit (s.kept?.getD s.status)

/-- Reports a mistake and gives up. -/
def fail {α : Type} (text : Octets) : Sh α := do
  warn text
  throw (.error 2)

end Sh

/-! ## Variables -/

namespace State

def binding? (s : State) (name : Octets) : Option Variable :=
  s.values.find? (·.name == name)

def get? (s : State) (name : Octets) : Option Octets := (s.binding? name).bind (·.value?)

def get (s : State) (name : Octets) : Octets := (s.get? name).getD ""

/-- Puts a variable in the place of the one of its name. -/
def put (s : State) (v : Variable) : State :=
  if s.values.any (·.name == v.name) then
    { s with values := s.values.map fun w => if w.name == v.name then v else w }
  else { s with values := v :: s.values }

def drop (s : State) (name : Octets) : State :=
  { s with values := s.values.filter (·.name != name) }

def has (s : State) (flag : Char) : Bool := s.flags.contains flag

/-- Changes the value of a variable, which may have to be made. -/
def assign (s : State) (name value : Octets) (exported : Bool := false) : State :=
  let exported := exported || s.has 'a'
  let s := if name = "OPTIND" then
    { s with scan := { index := value.toNat?.getD 1, offset := 0 } } else s
  match s.binding? name with
  | some v => s.put { v with value? := some value, isExported := v.isExported || exported }
  | none => s.put { name, value? := some value, isExported := exported }

def isReadOnly (s : State) (name : Octets) : Bool :=
  ((s.binding? name).map (·.isReadOnly)).getD false

/-- The bindings that other programs are given. -/
def bindings (s : State) : List (Octets × Octets) :=
  s.values.reverse.filterMap fun v =>
    if v.isExported then v.value?.map fun value => (v.name, value) else none

/-- Characters that separate words. -/
def separators (s : State) : Octets := (s.get? "IFS").getD " \t\n"

end State

/-- Refuses to change what is no variable, or one that may not be changed. -/
def checkVariable (name : Octets) : Sh Unit := do
  if !isName name then Sh.fail s!"{name}: bad variable name"
  if (← get).isReadOnly name then Sh.fail s!"{name}: is read only"

def setVariable (name value : Octets) (exported : Bool := false) : Sh Unit := do
  checkVariable name
  modify fun s => s.assign name value exported

def unsetVariable (name : Octets) : Sh Unit := do
  checkVariable name
  modify fun s => s.drop name

/-- Notes what a variable is, for the end of the command or function. -/
def saveVariable (name : Octets) : Sh Unit := modify fun s =>
  match s.frames with
  | frame :: frames => { s with frames := ((name, s.binding? name) :: frame) :: frames }
  | [] => s

def pushFrame : Sh Unit := modify fun s => { s with frames := [] :: s.frames }

/-- Undoes the changes of a command or function. -/
def popFrame : Sh Unit := modify fun s =>
  match s.frames with
  | frame :: frames => frame.foldl (fun s (name, v?) =>
      match v? with
      | some v => if name = "-" then { s with flags := (v.value?.getD "").toList } else s.put v
      | none => s.drop name) { s with frames }
  | [] => s

end AssetWatch.Shell
