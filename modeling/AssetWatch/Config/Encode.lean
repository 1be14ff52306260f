import AssetWatch.Config.Record
import AssetWatch.Data.Value

/-!
# The document of a record

Every field is written out, except a template that is not given.
-/

namespace AssetWatch

open Data (Value)

def encodeOptional : Option String → Value
  | some s => .text s
  | none => .null

def NameMap.encode {β : Type} (item : β → Value) (m : NameMap β) : Value :=
  .table (m.toList.map fun (name, b) => (name, item b))

def Path.encode (p : Path) : Value := .text p.text

def ArgToken.encode : ArgToken → Value
  | .text s => .table [("text", Value.text s)]
  | .var x => .table [("variable", Value.text x.name)]

def encodeWord (n : UInt64) : Value := .integer (n.toNat : Int)

def Targets.encode (t : Targets) : Value := .table [
  ("bundle_entrypoints_folder", NameMap.encode Path.encode t.entrypointFolders),
  ("watch", NameMap.encode (fun folders => .list (folders.map Path.encode)) t.watch)]

def encodeTemplate (tokens : List ArgToken) : Value := .list (tokens.map ArgToken.encode)

def StrategySettings.encode (s : StrategySettings) : Value := .table <|
  [("type", .text s.kind.name)] ++
  (s.argsEach.map fun tokens => ("commandline_args_each", encodeTemplate tokens)).toList ++
  [("cmds", NameMap.encode Value.text s.commands)]

def Observability.encode (o : Observability) : Value := .table [
  ("log_level", .text o.logLevel),
  ("log_format", .text o.logFormat.name),
  ("metrics_address", encodeOptional o.metricsAddress)]

def WatcherSettings.encode (w : WatcherSettings) : Value := .table [
  ("debounce_ms", encodeWord w.debounceMs),
  ("poll_interval_ms", encodeWord w.pollIntervalMs),
  ("watch_config", .boolean w.watchConfig)]

def ExecutionLimits.encode (l : ExecutionLimits) : Value := .table [
  ("max_parallel", encodeWord l.maxParallel),
  ("timeout_secs", encodeWord l.timeoutSecs),
  ("fail_fast", .boolean l.failFast)]

def Config.encode (c : Config) : Value := .table [
  ("initialize", encodeOptional c.setup),
  ("targets", c.targets.encode),
  ("strategy", c.strategy.encode),
  ("observability", c.observability.encode),
  ("watcher", c.watcher.encode),
  ("execution", c.execution.encode)]

end AssetWatch
