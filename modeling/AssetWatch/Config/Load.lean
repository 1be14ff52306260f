import AssetWatch.Config.Decode
import AssetWatch.Config.Validation
import AssetWatch.Host.Tree
import AssetWatch.Toml.Document

/-!
# Loading a configuration

A configuration is read from a file, parsed, fitted to the record and validated; the first
of these that fails decides the error.
-/

namespace AssetWatch

inductive LoadError
  | unreadable (path : Path) (fault : Host.Fault)
  /-- the text is no document -/
  | malformed
  | misfit (fault : Schema.Fault)
  | invalid (faults : List ConfigFault)

namespace LoadError

def message : LoadError → String
  | .unreadable path fault => s!"IO error reading {path.quoted}: {fault.message}"
  | .malformed => "Parse error"
  | .misfit fault => s!"Parse error: {fault.message}"
  | .invalid faults =>
    "Validation failed: " ++ String.intercalate ", " (faults.map ConfigFault.message)

end LoadError

namespace Config

/-- The valid record of a document. -/
def ofDocument (document : Data.Value) : Except LoadError Config := do
  let config ← (decode document).mapError .misfit
  config.validate.mapError .invalid
  return config

/-- The valid record of a text. -/
def parse (content : String) : Except LoadError Config :=
  match Toml.parse content with
  | some document => ofDocument document
  | none => .error .malformed

/-- The valid record of a file, from what reading the file gives. -/
def ofReading (path : Path) : Except Host.Fault String → Except LoadError Config
  | .ok content => parse content
  | .error fault => .error (.unreadable path fault)

/-- The valid record of a file. -/
def load (tree : Host.Tree) (cwd : Host.Place) (path : Path) : Except LoadError Config :=
  ofReading path (tree.readText cwd path)

/-- Where the configuration is, seen from the project's root, unless said otherwise. -/
def defaultPath : Path := ⟨"config/bundler.toml"⟩

end Config

end AssetWatch
