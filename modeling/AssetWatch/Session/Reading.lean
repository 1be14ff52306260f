import AssetWatch.Config.Record

/-!
# Reading the configuration in force

The configuration of a session may be replaced at any time, also between two moments at which
one operation looks at it. A reading is an operation with these moments made explicit.
-/

namespace AssetWatch

/-- An operation that looks at the configuration in force, perhaps several times. -/
inductive Reading (α : Type)
  | done (result : α)
  | read (next : Config → Reading α)

namespace Reading

variable {α β : Type}

def bind : Reading α → (α → Reading β) → Reading β
  | .done a, f => f a
  | .read next, f => .read fun c => (next c).bind f

def map (f : α → β) (r : Reading α) : Reading β := r.bind fun a => .done (f a)

/-- The result when the n-th look finds the n-th configuration. -/
def seeing : Reading α → (Nat → Config) → α
  | .done a, _ => a
  | .read next, found => (next (found 0)).seeing fun n => found (n + 1)

/-- The result when nothing replaces the configuration. -/
def under (r : Reading α) (c : Config) : α := r.seeing fun _ => c

end Reading

end AssetWatch
