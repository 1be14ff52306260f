import AssetWatch.Metrics
import AssetWatch.Run.Child

/-!
# Counting on a machine

A machine may keep counts beside its state. What became of a process is counted where the machine
takes it down.
-/

namespace AssetWatch

/-- The state of a machine, and what was counted so far. -/
structure Ledger (σ : Type) where
  state : σ
  metrics : Metrics := {}

/-- The machine that also counts what it takes down. -/
def Machine.counting {σ : Type} (m : Machine σ) : Machine (Ledger σ) where
  start launch limitMs l :=
    let (started, state) := m.start launch limitMs l.state
    (started, { l with state })
  next running l :=
    let (ended, state) := m.next running l.state
    (ended, { l with state })
  record kind outcome ms l :=
    { state := m.record kind outcome ms l.state
      metrics := l.metrics.recordInvocation kind outcome ms }

end AssetWatch
