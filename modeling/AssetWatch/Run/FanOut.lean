/-!
# Bounded fan-out

Jobs are started in their order whenever a slot is free, and end in any order. Each job
keeps the number it has in the list, so that the results can be put back in order. Some
results halt the work: what still waits then is skipped.
-/

namespace AssetWatch

/-- How jobs are done: a job is started or has its result at once. -/
structure Work (α ι β σ : Type) where
  start : α → σ → (ι ⊕ β) × σ
  /-- how many may run side by side -/
  limit : Nat
  /-- what waits is skipped after this result -/
  halts : β → Bool
  skip : α → β
  /-- takes down what came of a job that was done -/
  note : β → σ → σ
  /-- takes down that a job is skipped -/
  passOver : α → σ → σ

/-- Jobs that wait, that run, and that have ended, the last one in front. -/
structure FanOut (α ι β : Type) where
  waiting : List (Nat × α)
  running : List (Nat × ι)
  finished : List (Nat × β)

namespace FanOut

variable {α ι β σ : Type}

def ofJobs (jobs : List α) : FanOut α ι β :=
  { waiting := jobs.mapIdx fun i a => (i, a), running := [], finished := [] }

/-- A job has a result, and what waits is skipped if that halts the work. -/
def settle (w : Work α ι β σ) (f : FanOut α ι β) (number : Nat) (result : β) (state : σ) :
    FanOut α ι β × σ :=
  let state := w.note result state
  if w.halts result then
    let skipped := f.waiting.reverse.map fun (i, a) => (i, w.skip a)
    ({ f with waiting := [], finished := skipped ++ (number, result) :: f.finished },
      f.waiting.foldl (fun state (_, a) => w.passOver a state) state)
  else ({ f with finished := (number, result) :: f.finished }, state)

/-- Starts the jobs of a list, in order, as long as fewer than the limit run. -/
def fill (w : Work α ι β σ) : List (Nat × α) → FanOut α ι β → σ → FanOut α ι β × σ
  | [], f, state => ({ f with waiting := [] }, state)
  | (i, a) :: rest, f, state =>
    if f.running.length < w.limit then
      match w.start a state with
      | (.inl job, state) => fill w rest { f with running := f.running ++ [(i, job)] } state
      | (.inr result, state) =>
        let (f, state) := { f with waiting := rest }.settle w i result state
        if w.halts result then (f, state) else fill w rest f state
    else ({ f with waiting := (i, a) :: rest }, state)

/-- Fills the free slots. -/
def refill (w : Work α ι β σ) (f : FanOut α ι β) (state : σ) : FanOut α ι β × σ :=
  fill w f.waiting f state

def begin (w : Work α ι β σ) (jobs : List α) (state : σ) : FanOut α ι β × σ :=
  (ofJobs jobs).refill w state

def isDone (f : FanOut α ι β) : Bool := f.running.isEmpty

/-- The job at a position among the running ones; positions wrap around. -/
def job? (f : FanOut α ι β) (position : Nat) : Option (Nat × ι) :=
  f.running[position % f.running.length]?

/-- A running job ends with a result, and its slot is filled. -/
def complete (w : Work α ι β σ) (f : FanOut α ι β) (position : Nat) (result : ι → β)
    (state : σ) : FanOut α ι β × σ :=
  match f.job? position with
  | none => (f, state)
  | some (number, job) =>
    let running := f.running.eraseIdx (position % f.running.length)
    let (f, state) := { f with running }.settle w number (result job) state
    f.refill w state

/-- Lets running jobs end, so many of them at most. -/
def steps (w : Work α ι β σ) (next : List ι → σ → (Nat × (ι → β)) × σ) :
    (count : Nat) → FanOut α ι β → σ → FanOut α ι β × σ
  | 0, f, state => (f, state)
  | count + 1, f, state =>
    if f.isDone then (f, state)
    else
      let ((position, result), state) := next (f.running.map (·.2)) state
      let (f, state) := f.complete w position result state
      steps w next count f state

/-- Results in the order of the jobs. -/
def results (f : FanOut α ι β) : List β :=
  (f.finished.mergeSort fun a b => a.1 ≤ b.1).map (·.2)

/-- Runs all jobs, and gives their results. -/
def run (w : Work α ι β σ) (next : List ι → σ → (Nat × (ι → β)) × σ) (jobs : List α)
    (state : σ) : List β × σ :=
  let (f, state) := begin w jobs state
  let (f, state) := f.steps w next jobs.length state
  (f.results, state)

end FanOut

end AssetWatch
