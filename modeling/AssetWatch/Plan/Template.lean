import AssetWatch.Targets.Entrypoint

/-!
# Argument templates

A template is filled in for one entrypoint: text stays, and a variable is replaced by what
it names.
-/

namespace AssetWatch

def ArgVariable.value (e : Entrypoint) (env : Environment) : ArgVariable → String
  | .entrypoint => e.path.text
  | .entrypointName => e.fileName
  | .entrypointStem => e.fileStem
  | .category => e.category
  | .entrypointsFolder => e.folder.text
  | .environment => env.name

def ArgToken.expand (e : Entrypoint) (env : Environment) : ArgToken → String
  | .text s => s
  | .var x => x.value e env

end AssetWatch
