import AssetWatch.Run.Outcome

/-!
# The document of a result
-/

namespace AssetWatch

open Data (Value)

/-- What is told about an outcome beside its name. -/
def Outcome.details : Outcome → List (String × Value)
  | .failed (some code) => [("code", .integer code)]
  | .failed none => [("code", .null)]
  | .spawnFailed reason => [("reason", .text reason)]
  | _ => []

def RunResult.encode (r : RunResult) : Value := .table <|
  [("invocation", r.invocation.encode), ("outcome", .text r.outcome.label)] ++
  r.outcome.details ++ [("duration_ms", .integer (r.durationMs : Int))]

end AssetWatch
