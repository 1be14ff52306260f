import AssetWatch.Config.Load

/-!
# File events

What is reported about files, and what becomes of it. A report about the configuration file
leads to loading it, and what loads and is valid is passed on; every other configuration is
passed over, and so is every other report.
-/

namespace AssetWatch

inductive EventKind
  | create
  /-- written, or moved to or from its name -/
  | modify
  | remove
  | access
  deriving DecidableEq

namespace EventKind

/-- Something may have to be built anew. -/
def isContentChange : EventKind → Bool
  | .create | .modify | .remove => true
  | .access => false

/-- There may be something new to load. -/
def isEdit : EventKind → Bool
  | .create | .modify => true
  | .remove | .access => false

end EventKind

structure FileEvent where
  kind : EventKind
  paths : List Path

/-- The paths of a report that may have to be built anew. -/
def FileEvent.changedPaths (e : FileEvent) : List Path :=
  if e.kind.isContentChange then e.paths else []

/-- Watches the configuration file of this path. -/
structure ConfigWatch where
  path : Path

namespace ConfigWatch

/-- The report is about the file: it names the file, and is no removal. -/
def concerns (w : ConfigWatch) (e : FileEvent) : Bool :=
  e.paths.any (fun p => p.fileName? == w.path.fileName?) && e.kind.isEdit

/-- What is passed on after a report, from what reading the file gives then. -/
def forward (w : ConfigWatch) (e : FileEvent) (reading : Except Host.Fault String) :
    Option Config :=
  if w.concerns e then (Config.ofReading w.path reading).toOption else none

/-- What is passed on over a run of reports, each with what reading the file gives then. -/
def forwarded (w : ConfigWatch) (events : List (FileEvent × Except Host.Fault String)) :
    List Config :=
  events.filterMap fun (e, reading) => w.forward e reading

/-- The folder to observe: files are also replaced as a whole. -/
def folder (w : ConfigWatch) : Path :=
  match w.path.parent? with
  | some parent => if parent.text = "" then ⟨"."⟩ else parent
  | none => ⟨"."⟩

end ConfigWatch

end AssetWatch
