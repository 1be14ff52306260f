import AssetWatch.Config.Record

/-!
# Validation

A record that reads well may still make no sense: a category with folders on one side only,
blank paths and commands, a template that is never read, periods of zero. Everything wrong
is reported, in the order of the record.
-/

namespace AssetWatch

inductive ConfigFault
  | missingWatch (category : String)
  | missingEntrypointsFolder (category : String)
  | argsWithoutSingleExecution (kind : StrategyKind)
  | noCommands
  | blankCommand (environment : String)
  | blankEntrypointsFolder (category : String)
  | emptyWatchList (category : String)
  | blankWatchPath (category : String)
  | blankSetup
  | zeroDebounce
  | zeroPollInterval
  deriving DecidableEq

namespace ConfigFault

def message : ConfigFault → String
  | .missingWatch category => s!"category '{category}' has an entrypoint folder but no watch list"
  | .missingEntrypointsFolder category =>
    s!"category '{category}' has a watch list but no entrypoint folder"
  | .argsWithoutSingleExecution kind =>
    s!"commandline_args_each is only used by SingleExecution, not {kind.name}"
  | .noCommands => "strategy.cmds must name at least one environment"
  | .blankCommand environment => s!"command for environment '{environment}' is blank"
  | .blankEntrypointsFolder category => s!"entrypoint folder for category '{category}' is blank"
  | .emptyWatchList category => s!"watch list for category '{category}' is empty"
  | .blankWatchPath category => s!"watch list for category '{category}' contains a blank path"
  | .blankSetup => "initialize command is blank"
  | .zeroDebounce => "watcher.debounce_ms must be greater than zero"
  | .zeroPollInterval => "watcher.poll_interval_ms must be greater than zero"

end ConfigFault

def Path.isBlank (p : Path) : Bool := Text.isBlank p.text

namespace Config

/-- `fault` if the rule is broken. -/
def broken (rule : Bool) (fault : ConfigFault) : List ConfigFault := if rule then [fault] else []

/-- What is wrong with one category's entrypoint folder. -/
def folderFaults (t : Targets) (category : String) (folder : Path) : List ConfigFault :=
  broken (!t.watch.contains category) (.missingWatch category) ++
  broken folder.isBlank (.blankEntrypointsFolder category)

/-- What is wrong with one category's watch list. -/
def watchFaults (t : Targets) (category : String) (folders : List Path) : List ConfigFault :=
  broken (!t.entrypointFolders.contains category) (.missingEntrypointsFolder category) ++
  (if folders.isEmpty then [.emptyWatchList category]
   else broken (folders.any Path.isBlank) (.blankWatchPath category))

def strategyFaults (s : StrategySettings) : List ConfigFault :=
  broken (s.argsEach.isSome && s.kind != .singleExecution) (.argsWithoutSingleExecution s.kind) ++
  broken s.commands.isEmpty .noCommands ++
  s.commands.toList.flatMap fun (env, command) => broken (Text.isBlank command) (.blankCommand env)

/-- Everything wrong with a record, in the order of the record. -/
def faults (c : Config) : List ConfigFault :=
  (c.targets.entrypointFolders.toList.flatMap fun (category, folder) =>
    folderFaults c.targets category folder) ++
  (c.targets.watch.toList.flatMap fun (category, folders) =>
    watchFaults c.targets category folders) ++
  strategyFaults c.strategy ++
  broken (c.setup.any Text.isBlank) .blankSetup ++
  broken (c.watcher.debounceMs == 0) .zeroDebounce ++
  broken (c.watcher.pollIntervalMs == 0) .zeroPollInterval

/-- Accepts a record with nothing wrong. -/
def validate (c : Config) : Except (List ConfigFault) Unit :=
  if c.faults.isEmpty then .ok () else .error c.faults

end Config

end AssetWatch
