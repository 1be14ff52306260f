import AssetWatch.Host.Fault
import AssetWatch.Text.Octets

/-!
# What processes ask of the system

A process is a task: it ends, or asks the system for something and goes on with the answer.
The kind of the answer hangs on the request. Programs are written as actions that are given
what is to be done with their result.
-/

namespace AssetWatch.Host

/-- How a process ended. -/
inductive Ending
  | exited (status : Nat)
  | killed (signal : Nat)
  deriving DecidableEq, Inhabited

/-- How a path is opened. -/
structure Access where
  reads : Bool := false
  writes : Bool := false
  creates : Bool := false
  /-- refuses what is already there -/
  excludes : Bool := false
  truncates : Bool := false
  appends : Bool := false
  mode : Nat := 0o666

namespace Access

def reading : Access := { reads := true }

def writing : Access := { writes := true, creates := true, truncates := true }

def appending : Access := { writes := true, creates := true, appends := true }

end Access

inductive Kind
  | directory
  | file
  | link
  | device
  | pipe
  deriving DecidableEq

/-- What is told about a node. -/
structure Status where
  number : Nat
  kind : Kind
  size : Nat := 0
  mode : Nat := 0o600
  links : Nat := 1
  /-- microseconds since the beginning of 1970 -/
  modified : Nat := 0

inductive Origin
  | start
  | current
  | finish

/-- How long to wait for a child. -/
inductive Patience
  | instant
  | untilEnded
  /-- until a child has ended or a caught signal arrives -/
  | untilSignal
  | till (time : Nat)

/-- What becomes of a signal. -/
inductive Disposition
  | standard
  | ignored
  | caught
  deriving DecidableEq

/-- Changes of the file tree. -/
inductive Edit
  | makeDirectory (path : Octets) (mode : Nat)
  | removeFile (path : Octets)
  | removeDirectory (path : Octets)
  | rename (source target : Octets)
  | link (target path : Octets)
  | share (source path : Octets)
  | setMode (path : Octets) (mode : Nat)
  | setTime (path : Octets) (time? : Option Nat)
  | truncate (path : Octets) (size : Nat)

inductive Call
  | openFile (path : Octets) (access : Access)
  | close (descriptor : Nat)
  /-- lets one descriptor mean the same as another -/
  | copyTo (descriptor target : Nat)
  /-- a copy from a number on, which is closed when another program runs -/
  | copyAbove (descriptor least : Nat)
  | newPipe
  | read (descriptor count : Nat)
  | write (descriptor : Nat) (bytes : ByteArray)
  | seek (descriptor : Nat) (offset : Int) (origin : Origin)
  | status (path : Octets) (follow : Bool)
  | statusOf (descriptor : Nat)
  | list (path : Octets)
  | readLink (path : Octets)
  | canonical (path : Octets)
  | edit (edit : Edit)
  | enter (path : Octets)
  | directory
  /-- goes on as another program; an answer means that this is refused -/
  | execute (path : Octets) (args : List Octets) (bindings : List (Octets × Octets))
  | await (child? : Option Nat) (patience : Patience)
  | kill (process : Int) (signal : Nat)
  | dispose (signal : Nat) (disposition : Disposition)
  | disposition (signal : Nat)
  /-- the caught signals that have arrived -/
  | arrived
  | clock
  | sleep (microseconds : Nat)
  /-- the numbers of the process and of its parent -/
  | identity
  | mask (mask? : Option Nat)
  /-- begins a group of its own; its children belong to it -/
  | lead
  /-- lets some time pass -/
  | tick

/-- The answer to a request. -/
def Call.Reply : Call → Type
  | .openFile .. => Except Fault Nat
  | .close .. | .copyTo .. => Except Fault Unit
  | .copyAbove .. => Except Fault Nat
  | .newPipe => Except Fault (Nat × Nat)
  | .read .. => Except Fault ByteArray
  | .write .. => Except Fault Unit
  | .seek .. => Except Fault Nat
  | .status .. | .statusOf .. => Except Fault Status
  | .list .. => Except Fault (List Octets)
  | .readLink .. | .canonical .. => Except Fault Octets
  | .edit .. | .enter .. => Except Fault Unit
  | .directory => Except Fault Octets
  | .execute .. => Fault
  | .await .. => Except Fault (Option (Nat × Ending))
  | .kill .. => Except Fault Unit
  | .dispose .. => Unit
  | .disposition .. => Disposition
  | .arrived => List Nat
  | .clock => Nat
  | .sleep .. => Unit
  | .identity => Nat × Nat
  | .mask .. => Nat
  | .lead => Unit
  | .tick => Unit

inductive Task
  | exit (status : Nat)
  | call (call : Call) (next : call.Reply → Task)
  /-- starts a child and goes on with its number -/
  | fork (child : Task) (next : Nat → Task)

instance : Inhabited Task := ⟨.exit 0⟩

/-- An action of a process that gives a result to what follows. -/
def Proc (α : Type) : Type := (α → Task) → Task

namespace Proc

instance : Monad Proc where
  pure a := fun next => next a
  bind m f := fun next => m fun a => f a next

instance {α : Type} : Inhabited (Proc α) := ⟨fun _ => .exit 0⟩

def run (m : Proc Nat) : Task := m .exit

/-- Asks the system. -/
def ask (c : Call) : Proc c.Reply := fun next => .call c next

def exit {α : Type} (status : Nat) : Proc α := fun _ => .exit status

/-- Starts a child, and gives its number. -/
def fork (child : Proc Nat) : Proc Nat := fun next => .fork child.run next

end Proc

/-- A program, from its arguments, with its name in front, and its environment. -/
abbrev Program := List Octets → List (Octets × Octets) → Proc Nat

end AssetWatch.Host
