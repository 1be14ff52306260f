import AssetWatch.Host.Call
import AssetWatch.Host.Change
import AssetWatch.Host.Signal

/-!
# The state of a machine

Files, processes, what they have open, pipes between them, and the streams in which the
machine collects what is written. Time is counted in microseconds. Descriptors of several
processes may mean the same opening, with one offset.
-/

namespace AssetWatch.Host

/-- What an opening reads or writes. -/
inductive Target
  | node (number : Nat)
  | reader (pipe : Nat)
  | writer (pipe : Nat)
  /-- a stream that the machine collects -/
  | stream (number : Nat)

structure Opening where
  target : Target
  offset : Nat := 0
  reads : Bool
  writes : Bool
  appends : Bool := false

structure Descriptor where
  number : Nat
  opening : Nat
  /-- closed when another program runs -/
  isPrivate : Bool := false

structure Process where
  id : Nat
  parent : Nat
  /-- the process that leads its group -/
  group : Nat := 0
  directory : Place
  descriptors : List Descriptor
  dispositions : List (Nat × Disposition) := []
  /-- caught signals that it has not seen yet -/
  arrived : List Nat := []
  mask : Nat := 0o022
  /-- when it goes on -/
  readyAt : Nat
  isHalted : Bool := false
  task : Task
  ending? : Option Ending := none
  startedAt : Nat := 0
  /-- when it is stopped, if it has not ended before -/
  limit? : Option Nat := none
  endedAt : Nat := 0

namespace Process

def isLive (p : Process) : Bool := p.ending?.isNone

def disposition (p : Process) (signal : Nat) : Disposition :=
  (p.dispositions.lookup signal).getD .standard

def descriptor? (p : Process) (number : Nat) : Option Descriptor :=
  p.descriptors.find? (·.number == number)

/-- The least free number, from one on. -/
def freeNumber (p : Process) (least : Nat) : Nat :=
  let taken := p.descriptors.map (·.number)
  ((List.range (taken.length + 1)).find? fun n => !taken.contains (least + n)).getD 0 + least

def close (p : Process) (number : Nat) : Process :=
  { p with descriptors := p.descriptors.filter (·.number != number) }

def setDescriptor (p : Process) (d : Descriptor) : Process :=
  { p with descriptors := d :: (p.close d.number).descriptors }

end Process

structure State where
  tree : Tree
  processes : List Process := []
  openings : Array Opening := #[]
  pipes : Array ByteArray := #[]
  streams : Array ByteArray := #[]
  /-- the number of the process that was started last -/
  lastProcess : Nat := 100

namespace State

def now (s : State) : Nat := s.tree.clock

def setNow (s : State) (time : Nat) : State := { s with tree := { s.tree with clock := time } }

def stream (s : State) (number : Nat) : ByteArray := s.streams[number]?.getD ByteArray.empty

/-- Writes a text to a stream that is collected. -/
def say (s : State) (number : Nat) (text : String) : State :=
  { s with streams := s.streams.modify number (· ++ text.toUTF8) }

def process? (s : State) (id : Nat) : Option Process := s.processes.find? (·.id == id)

def modifyProcess (s : State) (id : Nat) (f : Process → Process) : State :=
  { s with processes := s.processes.map fun p => if p.id == id then f p else p }

def setProcess (s : State) (p : Process) : State := s.modifyProcess p.id fun _ => p

def opening? (s : State) (p : Process) (number : Nat) : Option (Nat × Opening) :=
  (p.descriptor? number).bind fun d => (s.openings[d.opening]?).map fun o => (d.opening, o)

/-- Some process that lives has it open. -/
def isHeld (s : State) (opening : Nat) : Bool :=
  s.processes.any fun p => p.isLive && p.descriptors.any (·.opening == opening)

/-- Some process has an opening of which this holds. -/
def holdsAny (s : State) (pass : Target → Bool) : Bool :=
  s.processes.any fun p => p.isLive && p.descriptors.any fun d =>
    match s.openings[d.opening]? with
    | some o => pass o.target
    | none => false

def hasReader (s : State) (pipe : Nat) : Bool := s.holdsAny fun
  | .reader n => n == pipe
  | _ => false

def hasWriter (s : State) (pipe : Nat) : Bool := s.holdsAny fun
  | .writer n => n == pipe
  | _ => false

/-- Some process may still write to a collected stream. -/
def hasStreams (s : State) : Bool := s.holdsAny fun
  | .stream _ => true
  | _ => false

def addOpening (s : State) (o : Opening) : Nat × State :=
  (s.openings.size, { s with openings := s.openings.push o })

def modifyOpening (s : State) (number : Nat) (f : Opening → Opening) : State :=
  { s with openings := s.openings.modify number f }

/-- Opens something for a process, under the least free number. -/
def give (s : State) (p : Process) (o : Opening) (isPrivate : Bool := false) :
    Nat × Process × State :=
  let (opening, s) := s.addOpening o
  let number := p.freeNumber 0
  let p := p.setDescriptor { number, opening, isPrivate }
  (number, p, s.setProcess p)

/-- A process ends; its children belong to no one any more. -/
def finish (s : State) (id : Nat) (ending : Ending) : State :=
  let settled := s.processes.filterMap fun p =>
    if p.id == id then
      if p.parent == 1 then none else some { p with ending? := some ending, endedAt := s.now, descriptors := [] }
    else if p.parent == id then if p.isLive then some { p with parent := 1 } else none
    else some p
  { s with processes := settled }

/-- Forgets a process that has ended. -/
def reap (s : State) (id : Nat) : State :=
  { s with processes := s.processes.filter (·.id != id) }

/-- A signal reaches a process. -/
def deliver (s : State) (id signal : Nat) : State :=
  match s.process? id with
  | none => s
  | some p =>
    if !p.isLive || signal = 0 then s
    else if signal = Signal.kill then s.finish id (.killed signal)
    else if signal = 18 then s.setProcess { p with isHalted := false }
    else match p.disposition signal with
      | .ignored => s
      | .caught => s.setProcess { p with arrived := p.arrived ++ [signal] }
      | .standard =>
        if Signal.isIdle signal then s
        else if Signal.isHalt signal then s.setProcess { p with isHalted := true }
        else s.finish id (.killed signal)

end State

end AssetWatch.Host
