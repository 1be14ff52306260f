import AssetWatch.Data.Value
import AssetWatch.Plan.Strategy

/-!
# The document of a plan
-/

namespace AssetWatch

open Data (Value)

def encodePaths (paths : List Path) : Value := .list (paths.map fun p => .text p.text)

def Invocation.encode (i : Invocation) : Value := .table [
  ("program", .text i.program),
  ("args", .list (i.args.map Value.text)),
  ("entrypoints", encodePaths i.entrypoints)]

def Plan.encode (p : Plan) : Value := .table [
  ("strategy", .text p.strategy.name),
  ("environment", .text p.environment.name),
  ("concurrent", .boolean p.concurrent),
  ("invocations", .list (p.invocations.map Invocation.encode))]

end AssetWatch
