import AssetWatch.Host.Scheduler
import AssetWatch.Run.Child

/-!
# The machine that runs processes

A request with a NUL is refused first, then one whose directory or program cannot be used.
Processes have nothing to read; what they write is lost, or collected.
-/

namespace AssetWatch.Host

/-- What does not change while a machine runs. -/
structure Setting where
  programs : String → Option Program
  bindings : List (String × String) := []
  /-- every process that may be stopped is stopped as soon as it is started -/
  hurried : Bool := false
  /-- what processes write is collected -/
  collects : Bool := false

/-- The bindings that processes have unless others are given. -/
def standardBindings : List (String × String) := [
  ("PATH", "/usr/local/sbin:/usr/local/bin:/usr/sbin:/usr/bin:/sbin:/bin"),
  ("HOME", "/root")]

namespace Setting

/-- Later bindings of a name replace earlier ones. -/
def bind (bindings : List (String × String)) (name value : String) : List (String × String) :=
  bindings.filter (·.1 != name) ++ [(name, value)]

def ownBindings (s : Setting) : List (String × String) :=
  s.bindings.foldl (fun all (name, value) => bind all name value) standardBindings

def bindingsOf (s : Setting) (launch : Launch) : List (String × String) :=
  match launch.environment with
  | some env => bind s.ownBindings Environment.variableName env.name
  | none => s.ownBindings

def hasNul (s : String) : Bool := s.toList.contains '\x00'

/-- The first program of a name in the directories; one that may not be run is reported only
if no other is found. -/
def search (t : Tree) (cwd : Place) (name : Octets) (args : List Octets) (denied : Bool)
    (last : Fault) : List String → Except Fault Executable
  | [] => .error (if denied then .accessDenied else last)
  | dir :: rest =>
    let path := if dir = "" then name else Octets.ofText dir ++ "/" ++ name
    match Executable.find t cwd 5 path args with
    | .ok executable => .ok executable
    | .error .accessDenied => search t cwd name args true .accessDenied rest
    | .error .notFound => search t cwd name args denied .notFound rest
    | .error .notDirectory => search t cwd name args denied .notDirectory rest
    | .error fault => .error fault

/-- The program of a name or path; only a text without separators is a name. -/
def find (t : Tree) (cwd : Place) (path? : Option String) (name : String) (args : List Octets) :
    Except Fault Executable :=
  let name := Octets.ofText name
  if name = "" then .error .notFound
  else if name.toList.contains '/' then Executable.find t cwd 5 name args
  else if 255 < name.length then .error .nameTooLong
  else search t cwd name args false .notFound ((path?.getD "/bin:/usr/bin").splitOn ":")

/-- Where a process starts, and the program it runs; or why it does not start. -/
def prepare (s : Setting) (launch : Launch) (state : State) :
    Except Fault (Place × Executable) := do
  let environment := (launch.environment.map (·.name)).toList
  if (launch.program.text :: launch.directory.text :: launch.args ++ environment).any hasNul then
    throw .nulInArgument
  let found ← state.tree.locate [] launch.directory
  match found.entry? with
  | some .directory =>
    let args := (launch.program.text :: launch.args).map Octets.ofText
    let path? := s.ownBindings.lookup "PATH"
    return (found.place, ← find state.tree found.place path? launch.program.text args)
  | some _ => throw .notDirectory
  | none => throw .notFound

/-- The descriptors of a new process: nothing to read, and where its writings go. -/
def standardDescriptors (s : Setting) (state : State) : List Descriptor × State :=
  let null : Target := .node ((state.tree.number? ["dev", "null"]).getD 0)
  let sink (stream : Nat) : Target := if s.collects then .stream stream else null
  let (input, state) := state.addOpening { target := null, reads := true, writes := true }
  let (output, state) := state.addOpening { target := sink 0, reads := false, writes := true }
  let (errors, state) := state.addOpening { target := sink 1, reads := false, writes := true }
  ([⟨0, input, false⟩, ⟨1, output, false⟩, ⟨2, errors, false⟩], state)

def start (s : Setting) (launch : Launch) (limitMs : Option Nat) (state : State) :
    Except Fault Nat × State :=
  match s.prepare launch state with
  | .error fault => (.error fault, state)
  | .ok (directory, executable) =>
    match s.programs executable.utility with
    | none => (.error .unknownFormat, state)
    | some program =>
      let bindings := (s.bindingsOf launch).map fun (name, value) =>
        (Octets.ofText name, Octets.ofText value)
      let (descriptors, state) := s.standardDescriptors state
      let id := state.lastProcess + 1
      let limitMs := if s.hurried then limitMs.map fun _ => 0 else limitMs
      let process : Process := {
        id
        parent := 0
        directory
        descriptors
        readyAt := state.now + 800
        task := (program executable.args bindings).run
        startedAt := state.now
        limit? := limitMs.map fun ms => state.now + ms * 1000 }
      let state := { state with lastProcess := id, processes := state.processes ++ [process] }
      (.ok id, state.stopOverdue)

/-- What became of a process that has ended. -/
def childOf (p : Process) (ending : Ending) : Child :=
  let ms := (p.endedAt - p.startedAt) / 1000
  match p.limit? with
  | some limit => if limit ≤ p.endedAt && ending = .killed Signal.kill then .stopped ms
    else .ended ending ms
  | none => .ended ending ms

/-- The first of the processes that has ended: its position, its number, and what became of
it. -/
def ended? (running : List Running) (state : State) : Option (Nat × Nat × Child) :=
  let found := running.zipIdx.filterMap fun (r, position) =>
    (state.process? r.process).bind fun p =>
      p.ending?.map fun ending => (p.endedAt, position, p.id, childOf p ending)
  (found.mergeSort fun a b => a.1 ≤ b.1).head?.map (·.2)

/-- Lets the processes run until one of them ends. One that can never end counts as killed. -/
def next (s : Setting) (running : List Running) (state : State) : (Nat × Child) × State :=
  let state := state.proceed s.programs (fun state => (ended? running state).isSome) none
    State.endless
  match ended? running state with
  | some (position, id, child) => ((position, child), state.reap id)
  | none => ((0, .ended (.killed Signal.kill) 0), state)

def machine (s : Setting) : Machine State where
  start launch limitMs state :=
    let (started, state) := s.start launch limitMs state
    (started.mapError fun fault => { reason := fault.message }, state)
  next := s.next

/-- Lets time pass up to a limit, or until something happens to files or one of the processes
ends. -/
def proceedTo (s : Setting) (running : List Running) (limit : Nat) (state : State) : State :=
  let stop (state : State) : Bool :=
    !state.tree.journal.isEmpty || (ended? running state).isSome
  state.proceed s.programs stop (some limit) State.endless

/-- Which of the processes has ended first; it is forgotten. -/
def takeEnded? (running : List Running) (state : State) : Option ((Nat × Child) × State) :=
  (ended? running state).map fun (position, id, child) => ((position, child), state.reap id)

/-- Goes on until nothing writes to the collected streams any more. -/
def drain (s : Setting) (state : State) : State :=
  state.proceed s.programs (fun state => !state.hasStreams) none State.endless

end Setting

/-- A setting of the kernel that can only be written, so the system lets nobody watch it. -/
def writeOnlySetting : Place := ["proc", "sys", "vm", "drop_caches"]

/-- The files of a machine on which nothing but its own programs is installed. -/
def bareTree (utilities : List String) : Tree :=
  let make (t : Tree) (place : Place) (entry : Entry) (mode : Nat) : Tree :=
    (t.create place entry mode).2
  let folders : List Place := [["usr"], ["usr", "bin"], ["usr", "sbin"], ["usr", "local"],
    ["usr", "local", "bin"], ["usr", "local", "sbin"], ["dev"], ["root"], ["etc"], ["home"], ["var"],
    ["proc"], ["proc", "sys"], ["proc", "sys", "vm"]]
  let t := folders.foldl (fun t place => make t place .directory 0o755) ({} : Tree)
  let t := make t ["tmp"] .directory 0o1777
  let t := make t ["bin"] (.link ⟨"usr/bin"⟩) 0o777
  let t := make t ["sbin"] (.link ⟨"usr/sbin"⟩) 0o777
  let t := make t ["dev", "null"] (.device .null) 0o666
  let t := make t ["dev", "zero"] (.device .zero) 0o666
  let t := make t ["dev", "full"] (.device .full) 0o666
  let account : Entry := .file (Octets.bytes "root:x:0:0:root:/root:/bin/bash\n")
  let t := make t ["etc", "passwd"] account 0o644
  let t := make t ["etc", "hostname"] (.file (Octets.bytes "localhost\n")) 0o644
  let t := make t writeOnlySetting (.file ByteArray.empty) 0o200
  let t := utilities.foldl
    (fun t name => make t ["usr", "bin", name] (.file (Executable.image name)) 0o755) t
  { t with journal := [] }

end AssetWatch.Host
