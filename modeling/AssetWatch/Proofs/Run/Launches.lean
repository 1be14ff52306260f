import AssetWatch.Proofs.Run.FanOut
import AssetWatch.Run.Ledger
import AssetWatch.Run.Runner
import AssetWatch.Run.Setup

/-!
# Which processes are asked for

All processes of a plan are told the environment of the build, which the setup command is not. So
whatever is preserved by starting processes with an environment, and by their ends, is preserved by
every run of a plan; such as what a list of everything that was asked for says of setup commands.
-/

namespace AssetWatch

def setupLaunch (command : String) (root : Path) : Launch where
  program := ⟨"sh"⟩
  args := ["-c", command]
  directory := root
  environment := none

/-- A machine that does what another does, and keeps a list of what it was asked to start. -/
def Machine.logging {σ : Type} (m : Machine σ) : Machine (σ × List Launch) where
  start launch limitMs s :=
    let (started, state) := m.start launch limitMs s.1
    (started, (state, s.2 ++ [launch]))
  next running s :=
    let (ended, state) := m.next running s.1
    (ended, (state, s.2))
  record kind outcome ms s := (m.record kind outcome ms s.1, s.2)

/-- What the machine does preserves a property of its state, unless it starts a process that is told
no environment. -/
structure Machine.Keeps {σ : Type} (m : Machine σ) (I : σ → Prop) : Prop where
  start : ∀ {launch limitMs state}, launch.environment.isSome = true → I state →
    I (m.start launch limitMs state).2
  next : ∀ {running state}, I state → I (m.next running state).2
  record : ∀ {kind outcome ms state}, I state → I (m.record kind outcome ms state)

/-- Counting is done beside the state. -/
theorem Machine.Keeps.counting {σ : Type} {m : Machine σ} {I : σ → Prop} (keeps : m.Keeps I) :
    m.counting.Keeps fun l => I l.state where
  start told hs := keeps.start told hs
  next hs := keeps.next hs
  record hs := keeps.record hs

structure Work.Keeps {α ι β σ : Type} (w : Work α ι β σ) (I : σ → Prop) : Prop where
  start : ∀ a {state}, I state → I (w.start a state).2
  note : ∀ b {state}, I state → I (w.note b state)
  passOver : ∀ a {state}, I state → I (w.passOver a state)

namespace FanOut

variable {α ι β σ : Type} {w : Work α ι β σ} {ends : Endings ι β σ} {f g : FanOut α ι β}
  {state state' : σ} {I : σ → Prop}

theorem keeps_settle (note : ∀ b {state}, I state → I (w.note b state))
    (passOver : ∀ a {state}, I state → I (w.passOver a state)) {number : Nat} {b : β}
    (hs : I state) : I (f.settle w number b state).2 := by
  have noted : I (w.note b state) := note b hs
  cases halts : w.halts b with
  | true =>
    simp only [settle, halts, if_true]
    exact List.foldlRecOn _ _ noted fun _ hs job _ => passOver job.2 hs
  | false => rwa [settle_of_goesOn halts]

theorem Move.keeps (keeps : w.Keeps I)
    (ended : ∀ {running state e state'}, ends running state (e, state') → I state → I state')
    (h : Move w ends (f, state) (g, state')) (hs : I state) : I state' := by
  cases h with
  | @start _ _ _ _ a _ _ _ _ started => simpa [started] using keeps.start a hs
  | @refuse _ _ _ _ a _ _ _ _ refused =>
    exact keeps_settle keeps.note keeps.passOver (by simpa [refused] using keeps.start a hs)
  | complete _ h => exact keeps_settle keeps.note keeps.passOver (ended h hs)

theorem Moves.keeps (keeps : w.Keeps I)
    (ended : ∀ {running state e state'}, ends running state (e, state') → I state → I state')
    (h : Moves w ends (f, state) (g, state')) (hs : I state) : I state' :=
  Moves.preserve (P := fun s => I s.2) (fun hm hs => hm.keeps keeps ended hs) h hs

private theorem keeps_refill (keeps : w.Keeps I) (hs : I state) : I (f.refill w state).2 := by
  have moves : Moves w (fun _ _ _ => False) (f, state) (f.refill w state) := moves_refill
  exact moves.keeps keeps False.elim hs

theorem keeps_complete {position : Nat} {result : ι → β} (keeps : w.Keeps I) (hs : I state) :
    I (f.complete w position result state).2 := by
  unfold complete
  split
  · exact hs
  · exact keeps_refill keeps (keeps_settle keeps.note keeps.passOver hs)

theorem keeps_run {next : List ι → σ → (Nat × (ι → β)) × σ} {jobs : List α} (keeps : w.Keeps I)
    (ended : ∀ running {state}, I state → I (next running state).2) (hs : I state) :
    I (run w next jobs state).2 := by
  obtain ⟨g, moves, -⟩ := moves_run (w := w) next jobs state
  refine moves.keeps keeps ?_ hs
  intro running state e state' h hs
  have after := ended running hs
  rwa [show next running state = (e, state') from h] at after

end FanOut

namespace Runner

variable {σ : Type} {r : Runner} {m : Machine σ} {p : Plan} {state : σ} {I : σ → Prop}

private theorem keeps_work (keeps : m.Keeps I) : (r.work m p).Keeps I where
  start i {state} hs := by
    have started : I (m.start (r.launch p.environment i) r.limitMs state).2 := keeps.start rfl hs
    simp only [work, start]
    split <;> simp_all
  note _ _ hs := keeps.record hs
  passOver _ _ hs := keeps.record hs

theorem keeps_begin (keeps : m.Keeps I) (hs : I state) : I (r.begin m p state).2 :=
  FanOut.keeps_refill (keeps_work keeps) hs

theorem keeps_complete {run : PlanRun} {position : Nat} {child : Child} (keeps : m.Keeps I)
    (hs : I state) : I (r.complete m p run position child state).2 :=
  FanOut.keeps_complete (keeps_work keeps) hs

theorem keeps_execute (keeps : m.Keeps I) (hs : I state) : I (r.execute m p state).2 :=
  FanOut.keeps_run (keeps_work keeps) (fun _ _ hs => keeps.next hs) hs

end Runner

end AssetWatch
