import AssetWatch.Host.Executable
import AssetWatch.Host.State

/-!
# What the system does for processes

Each request changes the state and is answered after a while, or has to wait: for something to
read, for room to write, or for a child. A request that waits leaves the state as it is.
-/

namespace AssetWatch.Host

/-- What comes of a request: an answer after some microseconds, or none yet. -/
inductive Response (α : Type)
  | reply (answer : α) (state : State) (delay : Nat := 2)
  | wait

namespace State

def pathOf (s : Octets) : Path := ⟨Octets.text s⟩

/-! ## Openings -/

/-- The descriptor that a path of the system names. -/
def descriptorPath? (path : Octets) : Option Nat :=
  match path with
  | "/dev/stdin" => some 0
  | "/dev/stdout" => some 1
  | "/dev/stderr" => some 2
  | _ =>
    if path.startsWith "/dev/fd/" then (path.drop 8).toNat?
    else if path.startsWith "/proc/self/fd/" then (path.drop 14).toNat?
    else none

/-- Opens a node that is there. -/
def openNode (s : State) (p : Process) (number : Nat) (entry : Entry) (a : Access) :
    Except Fault (Nat × State) := do
  let tree ← match entry with
    | .directory => if a.writes || a.creates then throw .isDirectory else pure s.tree
    | .file _ => pure (if a.truncates then s.tree.setContent number ByteArray.empty else s.tree)
    | .device _ => pure s.tree
    | .link _ => throw .tooManyLinks
  let o : Opening :=
    { target := .node number, reads := a.reads, writes := a.writes, appends := a.appends }
  let (descriptor, _, s) := { s with tree }.give p o
  return (descriptor, s)

def openFile (s : State) (p : Process) (path : Octets) (a : Access) :
    Except Fault (Nat × State) := do
  match (descriptorPath? path).bind (s.opening? p) with
  | some (_, o) =>
    match o.target, a.appends with
    | .node number, _ =>
      match s.tree.node? number with
      | some node => s.openNode p number node.entry a
      | none => throw .notFound
    | _, _ =>
      let (descriptor, _, s) := s.give p { o with offset := 0 }
      return (descriptor, s)
  | none =>
    let path := pathOf path
    let bare := if a.creates then Tree.bare path else path
    let found ← s.tree.locate p.directory bare !(a.creates && a.excludes)
    match found.here? with
    | some (number, node) =>
      if a.creates && a.excludes then throw .exists
      if bare ≠ path then throw .isDirectory
      s.openNode p number node.entry a
    | none =>
      if !a.creates then throw .notFound
      if bare ≠ path then throw .isDirectory
      let mode := a.mode &&& (0o7777 - p.mask)
      let (number, tree) := s.tree.create found.place (.file ByteArray.empty) mode
      { s with tree }.openNode p number (.file ByteArray.empty) { a with truncates := false }

/-- Joins the content in front of an offset, what is written there, and what is behind. -/
def overwrite (content bytes : ByteArray) (offset : Nat) : ByteArray :=
  if offset = content.size then content ++ bytes
  else
    let gap : ByteArray := ⟨Array.replicate (offset - content.size) 0⟩
    content.extract 0 offset ++ gap ++ bytes ++
      content.extract (offset + bytes.size) content.size

/-- How much a pipe holds. -/
def pipeSize : Nat := 65536

def read (s : State) (p : Process) (descriptor count : Nat) :
    Response (Except Fault ByteArray) :=
  let delay := 3 + count / 8192
  match s.opening? p descriptor with
  | none => .reply (.error .badDescriptor) s
  | some (number, o) =>
    if !o.reads then .reply (.error .badDescriptor) s
    else match o.target with
      | .node node =>
        match s.tree.entry? node with
        | some (.file content) =>
          let bytes := content.extract o.offset (o.offset + count)
          let s := s.modifyOpening number fun o => { o with offset := o.offset + bytes.size }
          .reply (.ok bytes) s delay
        | some (.device .null) => .reply (.ok ByteArray.empty) s
        | some (.device _) => .reply (.ok ⟨Array.replicate count 0⟩) s delay
        | _ => .reply (.error .isDirectory) s
      | .reader pipe =>
        let content := s.pipes[pipe]?.getD ByteArray.empty
        if content.isEmpty then
          if !s.hasWriter pipe then .reply (.ok ByteArray.empty) s
          else if p.arrived.isEmpty then .wait
          else .reply (.error .interrupted) s
        else
          let rest := content.extract count content.size
          .reply (.ok (content.extract 0 count)) { s with pipes := s.pipes.set! pipe rest } delay
      | _ => .reply (.error .badDescriptor) s

/-- What comes of writing: all is written, only a part of it, or none. -/
inductive Writing
  | done (result : Except Fault Unit) (state : State)
  | part (rest : ByteArray) (state : State)
  | wait

def write (s : State) (p : Process) (descriptor : Nat) (bytes : ByteArray) : Writing :=
  match s.opening? p descriptor with
  | none => .done (.error .badDescriptor) s
  | some (number, o) =>
    if !o.writes then .done (.error .badDescriptor) s
    else if bytes.isEmpty then .done (.ok ()) s
    else match o.target with
      | .node node =>
        match s.tree.entry? node with
        | some (.file content) =>
          let offset := if o.appends then content.size else o.offset
          let s := { s with tree := s.tree.setContent node (overwrite content bytes offset) }
          let moved := s.modifyOpening number fun o => { o with offset := offset + bytes.size }
          .done (.ok ()) moved
        | some (.device .full) => .done (.error .noSpace) s
        | some (.device _) => .done (.ok ()) s
        | _ => .done (.error .badDescriptor) s
      | .stream stream =>
        .done (.ok ()) { s with streams := s.streams.modify stream (· ++ bytes) }
      | .writer pipe =>
        if !s.hasReader pipe then .done (.error .brokenPipe) (s.deliver p.id Signal.pipe)
        else
          let content := s.pipes[pipe]?.getD ByteArray.empty
          let room := pipeSize - content.size
          if bytes.size ≤ room then
            .done (.ok ()) { s with pipes := s.pipes.set! pipe (content ++ bytes) }
          else if room = 0 || bytes.size ≤ 4096 then .wait
          else
            let full := content ++ bytes.extract 0 room
            .part (bytes.extract room bytes.size) { s with pipes := s.pipes.set! pipe full }
      | .reader _ => .done (.error .badDescriptor) s

def seek (s : State) (p : Process) (descriptor : Nat) (offset : Int) (origin : Origin) :
    Except Fault Nat × State :=
  match s.opening? p descriptor with
  | none => (.error .badDescriptor, s)
  | some (number, o) =>
    match o.target with
    | .node node =>
      match s.tree.entry? node with
      | some (.file content) =>
        let base : Nat := match origin with
          | .start => 0
          | .current => o.offset
          | .finish => content.size
        let place := (base : Int) + offset
        if place < 0 then (.error .invalid, s)
        else (.ok place.toNat, s.modifyOpening number fun o => { o with offset := place.toNat })
      | _ => (.ok 0, s)
    | _ => (.error .badSeek, s)

/-! ## Nodes -/

def statusOf (s : State) (number : Nat) (node : Node) : Status :=
  let basic : Status := { number, kind := .file, mode := node.mode, modified := node.modified }
  match node.entry with
  | .directory => { basic with kind := .directory, size := 4096, links := 2 }
  | .file content => { basic with size := content.size, links := s.tree.linkCount number }
  | .link target => { basic with kind := .link, size := target.text.utf8ByteSize }
  | .device _ => { basic with kind := .device }

def status (s : State) (p : Process) (path : Octets) (follow : Bool) : Except Fault Status := do
  match if follow then (descriptorPath? path).bind (s.opening? p) else none with
  | some (_, { target := .node number, .. }) =>
    match s.tree.node? number with
    | some node => return s.statusOf number node
    | none => throw .notFound
  | some _ => return { number := 0, kind := .pipe }
  | none =>
    let (number, node) ← (← s.tree.locate p.directory (pathOf path) follow).here
    return s.statusOf number node

def statusOfDescriptor (s : State) (p : Process) (descriptor : Nat) : Except Fault Status :=
  match s.opening? p descriptor with
  | none => .error .badDescriptor
  | some (_, { target := .node number, .. }) =>
    match s.tree.node? number with
    | some node => .ok (s.statusOf number node)
    | none => .error .badDescriptor
  | some _ => .ok { number := 0, kind := .pipe }

def readLink (s : State) (p : Process) (path : Octets) : Except Fault Octets := do
  let found ← s.tree.locate p.directory (pathOf path) false
  match (← found.here).2.entry with
  | .link target => return Octets.ofText target.text
  | _ => throw .invalid

/-- Moves an entry; directories that processes are in move along. -/
def rename (s : State) (p : Process) (source target : Path) : Except Fault State := do
  let old ← s.tree.locate p.directory (Tree.bare source) false
  let new ← s.tree.locate p.directory (Tree.bare target) false
  let tree ← s.tree.rename p.directory source target
  let move (q : Process) : Process :=
    if old.place.isPrefixOf q.directory then
      { q with directory := new.place ++ q.directory.drop old.place.length }
    else q
  return { s with tree, processes := s.processes.map move }

def edit (s : State) (p : Process) (e : Edit) : Except Fault State := do
  let t := s.tree
  let cwd := p.directory
  match e with
  | .makeDirectory path mode =>
    return { s with tree := ← t.makeDirectory cwd (pathOf path) (mode &&& (0o7777 - p.mask)) }
  | .removeFile path => return { s with tree := ← t.removeFile cwd (pathOf path) }
  | .removeDirectory path => return { s with tree := ← t.removeDirectory cwd (pathOf path) }
  | .rename source target => s.rename p (pathOf source) (pathOf target)
  | .link target path => return { s with tree := ← t.link cwd (pathOf path) (pathOf target) }
  | .share source path => return { s with tree := ← t.share cwd (pathOf source) (pathOf path) }
  | .setMode path mode =>
    let (number, _) ← t.stat cwd (pathOf path)
    return { s with tree := t.setMode number mode }
  | .setTime path time? =>
    let (number, _) ← t.stat cwd (pathOf path)
    return { s with tree := t.setTime number (time?.getD s.now) }
  | .truncate path size =>
    match ← t.stat cwd (pathOf path) with
    | (number, { entry := .file content, .. }) =>
      let gap : ByteArray := ⟨Array.replicate (size - content.size) 0⟩
      return { s with tree := t.setContent number (content.extract 0 size ++ gap) }
    | (_, { entry := .directory, .. }) => throw .isDirectory
    | _ => throw .invalid

def enter (s : State) (p : Process) (path : Octets) : Except Fault State := do
  let found ← s.tree.locate p.directory (pathOf path)
  match (← found.here).2.entry with
  | .directory => return s.setProcess { p with directory := found.place }
  | _ => throw .notDirectory

/-! ## Processes -/

def await (s : State) (p : Process) (child? : Option Nat) (patience : Patience) :
    Response (Except Fault (Option (Nat × Ending))) :=
  let children := s.processes.filter fun c =>
    c.parent == p.id && (child?.isNone || child? == some c.id)
  match children.findSome? fun c => c.ending?.map fun ending => (c.id, ending) with
  | some (id, ending) => .reply (.ok (some (id, ending))) (s.reap id)
  | none =>
    if children.isEmpty then .reply (.error .noChild) s
    else match patience with
      | .instant => .reply (.ok none) s
      | .untilEnded => .wait
      | .untilSignal => if p.arrived.isEmpty then .wait else .reply (.error .interrupted) s
      | .till time => if time ≤ s.now then .reply (.ok none) s else .wait

/-- Sends a signal to one process, to its own group when the number is zero, to all when it is
minus one, and to the group of the number without its sign when it is less. -/
def kill (s : State) (p : Process) (id : Int) (signal : Nat) : Except Fault State :=
  let sendAll (pass : Process → Bool) : State :=
    (s.processes.filter pass).foldl (fun s q => s.deliver q.id signal) s
  if 0 < id then
    match s.process? id.toNat with
    | some _ => .ok (s.deliver id.toNat signal)
    | none => .error .noProcess
  else if id = 0 then .ok (sendAll fun q => q.group == p.group)
  else if id = -1 then .ok (sendAll fun _ => true)
  else if s.processes.any fun q => q.group == id.natAbs then
    .ok (sendAll fun q => q.group == id.natAbs)
  else .error .noProcess

def copyTo (s : State) (p : Process) (descriptor target : Nat) : Except Fault Unit × State :=
  match p.descriptor? descriptor with
  | none => (.error .badDescriptor, s)
  | some d =>
    if descriptor = target then (.ok (), s)
    else (.ok (), s.setProcess (p.setDescriptor { number := target, opening := d.opening }))

def copyAbove (s : State) (p : Process) (descriptor least : Nat) : Except Fault Nat × State :=
  match p.descriptor? descriptor with
  | none => (.error .badDescriptor, s)
  | some d =>
    let number := p.freeNumber least
    let copy : Descriptor := { number, opening := d.opening, isPrivate := true }
    (.ok number, s.setProcess (p.setDescriptor copy))

def newPipe (s : State) (p : Process) : (Nat × Nat) × State :=
  let pipe := s.pipes.size
  let s := { s with pipes := s.pipes.push ByteArray.empty }
  let (first, p, s) := s.give p { target := .reader pipe, reads := true, writes := false }
  let (second, _, s) := s.give p { target := .writer pipe, reads := false, writes := true }
  ((first, second), s)

/-- The answer of a request that may be refused, and the state as it was if it is. -/
def answer {α : Type} (s : State) (delay : Nat) :
    Except Fault (α × State) → Response (Except Fault α)
  | .ok (a, s) => .reply (.ok a) s delay
  | .error fault => .reply (.error fault) s delay

def changed (s : State) (delay : Nat) : Except Fault State → Response (Except Fault Unit)
  | .ok s => .reply (.ok ()) s delay
  | .error fault => .reply (.error fault) s delay

/-- Does what a process asks for. -/
def perform (s : State) (p : Process) : (c : Call) → Response c.Reply
  | .openFile path access => s.answer 5 (s.openFile p path access)
  | .close descriptor =>
    match p.descriptor? descriptor with
    | some _ => .reply (.ok ()) (s.setProcess (p.close descriptor))
    | none => .reply (.error .badDescriptor) s
  | .copyTo descriptor target =>
    let (result, s) := s.copyTo p descriptor target
    .reply result s
  | .copyAbove descriptor least =>
    let (result, s) := s.copyAbove p descriptor least
    .reply result s
  | .newPipe =>
    let (ends, s) := s.newPipe p
    .reply (.ok ends) s
  | .read descriptor count => s.read p descriptor count
  | .write descriptor bytes =>
    match s.write p descriptor bytes with
    | .done result s => .reply result s 3
    | .part _ s => .reply (.ok ()) s 3
    | .wait => .wait
  | .seek descriptor offset origin =>
    let (result, s) := s.seek p descriptor offset origin
    .reply result s
  | .status path follow => .reply (s.status p path follow) s
  | .statusOf descriptor => .reply (s.statusOfDescriptor p descriptor) s
  | .list path =>
    .reply ((s.tree.list p.directory (pathOf path)).map (·.map Octets.ofText)) s 10
  | .readLink path => .reply (s.readLink p path) s
  | .canonical path =>
    let found := s.tree.canonical p.directory (pathOf path)
    .reply (found.map fun path => Octets.ofText path.text) s
  | .edit e => s.changed 8 (s.edit p e)
  | .enter path => s.changed 2 (s.enter p path)
  | .directory =>
    if (s.tree.number? p.directory).isNone then .reply (.error .notFound) s
    else .reply (.ok (Octets.ofText p.directory.toPath.text)) s
  | .execute .. => .reply .unknownFormat s
  | .await child? patience => s.await p child? patience
  | .kill id signal => s.changed 2 (s.kill p id signal)
  | .dispose signal disposition =>
    let others := p.dispositions.filter (·.1 != signal)
    .reply () (s.setProcess { p with dispositions := (signal, disposition) :: others })
  | .disposition signal => .reply (p.disposition signal) s
  | .arrived => .reply p.arrived (s.setProcess { p with arrived := [] }) 1
  | .clock => .reply s.now s
  | .sleep microseconds => .reply () s (microseconds + 1)
  | .identity => .reply (p.id, p.parent) s
  | .mask mask? => .reply p.mask (s.setProcess { p with mask := mask?.getD p.mask })
  | .lead => .reply () (s.setProcess { p with group := p.id })
  | .tick => .reply () s 1

/-- A process goes on with a task, after a while. -/
def resume (s : State) (id : Nat) (task : Task) (delay : Nat) : State :=
  s.modifyProcess id fun p => { p with task, readyAt := s.now + delay }

/-- A process goes on as another program. -/
def execute (s : State) (p : Process) (task : Task) : State :=
  let kept := p.dispositions.filter fun (_, d) => d == .ignored
  s.setProcess { p with
    task
    dispositions := kept
    arrived := []
    descriptors := p.descriptors.filter (!·.isPrivate)
    readyAt := s.now + 600 }

def startChild (s : State) (p : Process) (task : Task) : Nat × State :=
  let id := s.lastProcess + 1
  let child := { p with
    id
    task
    parent := p.id
    arrived := []
    limit? := none
    startedAt := s.now
    readyAt := s.now + 250 }
  (id, { s with lastProcess := id, processes := s.processes ++ [child] })

/-- Lets a process do the next step of its task, if it does not have to wait. -/
def advance (programs : String → Option Program) (s : State) (p : Process) : Option State :=
  match p.task with
  | .exit status => some (s.finish p.id (.exited (status % 256)))
  | .fork child next =>
    let (id, s) := s.startChild p child
    some (s.resume p.id (next id) 120)
  | .call (.execute path args bindings) next =>
    match Executable.find s.tree p.directory 5 path args with
    | .error fault => some (s.resume p.id (next fault) 20)
    | .ok e =>
      match programs e.utility with
      | some program => some (s.execute p (program e.args bindings).run)
      | none => some (s.resume p.id (next .unknownFormat) 20)
  | .call (.write descriptor bytes) next =>
    match s.write p descriptor bytes with
    | .done result s => some (s.resume p.id (next result) (3 + bytes.size / 8192))
    | .part rest s => some (s.resume p.id (.call (.write descriptor rest) next) 5)
    | .wait => none
  | .call c next =>
    match s.perform p c with
    | .reply answer s delay => some (s.resume p.id (next answer) delay)
    | .wait => none

/-- When a task goes on at the latest. -/
def deadline? : Task → Option Nat
  | .call (.await _ (.till time)) _ => some time
  | _ => none

end State

end AssetWatch.Host
