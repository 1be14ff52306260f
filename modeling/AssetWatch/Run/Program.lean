import AssetWatch.Path

/-!
# Which program a command names

A relative path of several components is taken from the project's root; a single component
is looked up by the system, and an absolute path stays as it is.
-/

namespace AssetWatch

def resolveProgram (root : Path) (program : String) : Path :=
  let path : Path := ⟨program⟩
  if !path.isAbsolute && 1 < path.components.length then root.join path else path

end AssetWatch
