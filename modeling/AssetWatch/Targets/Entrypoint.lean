import AssetWatch.Config.Record

/-!
# Entrypoints

An entrypoint is a file that a bundler is started on. Its path keeps the spelling of the
folder it was found in.
-/

namespace AssetWatch

structure Entrypoint where
  category : String
  /-- the folder, as configured -/
  folder : Path
  /-- the folder's path with the file's name behind it -/
  path : Path
  deriving DecidableEq

namespace Entrypoint

def fileName (e : Entrypoint) : String := e.path.fileName

def fileStem (e : Entrypoint) : String := e.path.fileStem

end Entrypoint

end AssetWatch
