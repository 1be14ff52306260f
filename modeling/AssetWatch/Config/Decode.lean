import AssetWatch.Config.Record
import AssetWatch.Config.Schema

/-!
# The record of a document

Which fields the sections of a configuration have, and how each is read. A field that a
section leaves out keeps its default; only the targets, the strategy and the strategy's kind
must be given.
-/

namespace AssetWatch

open Data (Value)
open Schema (Reader FieldReader field record)

def Path.decode : Reader Path
  | .text s => .ok ⟨s⟩
  | v => .error (.wrongType v "path string")

def StrategyKind.decode : Reader StrategyKind := Schema.oneOf StrategyKind.name StrategyKind.all

def ArgVariable.decode : Reader ArgVariable := Schema.oneOf ArgVariable.name ArgVariable.all

def LogFormat.decode : Reader LogFormat := Schema.oneOf LogFormat.name LogFormat.all

def ArgToken.decode : Reader ArgToken := fun v => do
  match ← Schema.named ["text", "variable"] v with
  | (_, none) => .error .payloadMissing
  | ("text", some payload) => (Schema.text payload).map .text
  | (_, some payload) => (ArgVariable.decode payload).map .var

def NameMap.decode {β : Type} (item : Reader β) : Reader (NameMap β) := fun v =>
  (Schema.entries item v).map Sorted.ofList

namespace Targets

def fields : List (FieldReader Targets) := [
  field "bundle_entrypoints_folder" (NameMap.decode Path.decode)
    fun t folders => { t with entrypointFolders := folders },
  field "watch" (NameMap.decode (Schema.list Path.decode)) fun t watch => { t with watch }]

def decode : Reader Targets := record "TargetsConfig" fields {}

end Targets

namespace StrategySettings

/-- The settings before it is known whether the kind is given. -/
structure Draft where
  kind : Option StrategyKind := none
  argsEach : Option (List ArgToken) := none
  commands : NameMap String := .empty

def fields : List (FieldReader Draft) := [
  field "type" StrategyKind.decode fun d kind => { d with kind := some kind },
  field "commandline_args_each" (Schema.optional (Schema.list ArgToken.decode))
    fun d argsEach => { d with argsEach },
  field "cmds" (NameMap.decode Schema.text) fun d commands => { d with commands }]

def decode : Reader StrategySettings := fun v => do
  let draft ← record "StrategyConfig" fields {} v
  match draft.kind, v.items? with
  | some kind, _ => .ok { kind, argsEach := draft.argsEach, commands := draft.commands }
  | none, some _ => .error (.tooShort 0 "StrategyConfig" fields.length)
  | none, none => .error (.missingField "type")

end StrategySettings

namespace Observability

def fields : List (FieldReader Observability) := [
  field "log_level" Schema.text fun o logLevel => { o with logLevel },
  field "log_format" LogFormat.decode fun o logFormat => { o with logFormat },
  field "metrics_address" (Schema.optional Schema.text)
    fun o metricsAddress => { o with metricsAddress }]

def decode : Reader Observability := record "ObservabilityConfig" fields {}

end Observability

namespace WatcherSettings

def fields : List (FieldReader WatcherSettings) := [
  field "debounce_ms" (Schema.word "u64") fun w debounceMs => { w with debounceMs },
  field "poll_interval_ms" (Schema.word "u64") fun w pollIntervalMs => { w with pollIntervalMs },
  field "watch_config" Schema.boolean fun w watchConfig => { w with watchConfig }]

def decode : Reader WatcherSettings := record "WatcherConfig" fields {}

end WatcherSettings

namespace ExecutionLimits

def fields : List (FieldReader ExecutionLimits) := [
  field "max_parallel" (Schema.word "usize") fun l maxParallel => { l with maxParallel },
  field "timeout_secs" (Schema.word "u64") fun l timeoutSecs => { l with timeoutSecs },
  field "fail_fast" Schema.boolean fun l failFast => { l with failFast }]

def decode : Reader ExecutionLimits := record "ExecutionConfig" fields {}

end ExecutionLimits

namespace Config

/-- The record before it is known whether targets and strategy are given. -/
structure Draft where
  setup : Option String := none
  targets : Option Targets := none
  strategy : Option StrategySettings := none
  observability : Observability := {}
  watcher : WatcherSettings := {}
  execution : ExecutionLimits := {}

def fields : List (FieldReader Draft) := [
  field "initialize" (Schema.optional Schema.text) fun d setup => { d with setup },
  field "targets" Targets.decode fun d targets => { d with targets := some targets },
  field "strategy" StrategySettings.decode fun d strategy => { d with strategy := some strategy },
  field "observability" Observability.decode fun d observability => { d with observability },
  field "watcher" WatcherSettings.decode fun d watcher => { d with watcher },
  field "execution" ExecutionLimits.decode fun d execution => { d with execution }]

def decode : Reader Config := fun v => do
  let draft ← record "BundlerConfig" fields {} v
  match draft.targets, draft.strategy with
  | none, _ => .error (.missingField "targets")
  | _, none => .error (.missingField "strategy")
  | some targets, some strategy =>
    .ok { setup := draft.setup, targets, strategy, observability := draft.observability,
          watcher := draft.watcher, execution := draft.execution }

end Config

end AssetWatch
