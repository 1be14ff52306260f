import AssetWatch.Plan.Strategy
import AssetWatch.Targets.Discovery

/-!
# Planning a build

A build of some categories runs the environment's command on all their entrypoints. An
environment without a command is reported before anything is read.
-/

namespace AssetWatch

open Host (Tree Place)

inductive BuildError
  | discovery (error : DiscoveryError)
  | environment (error : UnknownEnvironment)
  /-- a folder cannot be watched -/
  | watch (folder : Path) (fault : Host.Fault)

def BuildError.message : BuildError → String
  | .discovery error => error.message
  | .environment error => error.message
  | .watch folder fault => s!"failed to start watcher: {fault.message} about [{folder.quoted}]"

/-- The plan of a build of some categories, in their order. -/
def Config.plan (c : Config) (tree : Tree) (cwd : Place) (root : Path) (env : Environment)
    (categories : List String) : Except BuildError Plan := do
  let program ← (c.strategy.commandFor env).mapError .environment
  let entrypoints ← (Targets.discoverAll tree cwd root c.targets categories).mapError .discovery
  let work : Workload :=
    { program, environment := env, entrypoints, template := c.strategy.argsTemplate }
  return work.plan c.strategy.kind

end AssetWatch
