import AssetWatch.Watch.Batch

/-!
# Bursts of changes

Changes that follow one another within the quiet period belong to one burst, whether or not
they affect a category. A burst is delivered as a batch once the quiet period has passed, or
when the stream of changes ends; a burst that affects no category is not delivered.

The stream is a list of changes with the times at which they arrive, and the time at which
it closes.
-/

namespace AssetWatch

structure Change where
  atMs : Nat
  path : Path

/-- Changes in order of time, and when the stream of them ends. -/
structure ChangeStream where
  changes : List Change
  closesAt : Nat

/-- A batch and the time at which it is there. -/
structure Delivery where
  batch : Batch
  atMs : Nat

structure Debouncer where
  matcher : Matcher
  quietMs : Nat

namespace Debouncer

/-- Collects the rest of a burst: the batch, when it is complete, the changes after it, and
whether the stream has ended. What arrives just when the period is over still counts. -/
def collect (d : Debouncer) (closesAt : Nat) (batch : Batch) (now : Nat) (changes : List Change) :
    Batch × Nat × List Change × Bool :=
  match changes with
  | change :: rest =>
    if change.atMs ≤ now + d.quietMs then
      d.collect closesAt (batch.add d.matcher change.path) (max now change.atMs) rest
    else (batch, now + d.quietMs, change :: rest, false)
  | [] =>
    if closesAt ≤ now + d.quietMs then (batch, max now closesAt, [], true)
    else (batch, now + d.quietMs, [], false)

theorem length_collect (d : Debouncer) (closesAt : Nat) (batch : Batch) (now : Nat)
    (changes : List Change) :
    (d.collect closesAt batch now changes).2.2.1.length ≤ changes.length := by
  induction changes generalizing batch now with
  | nil => unfold collect; split <;> simp
  | cons change rest ih =>
    unfold collect
    split
    · exact Nat.le_succ_of_le (ih ..)
    · simp

/-- The next batch that affects a category, and what is left of the stream; none once the
stream has ended. -/
def next? (d : Debouncer) (closesAt now : Nat) : List Change → Option (Delivery × List Change)
  | [] => none
  | first :: rest =>
    let burst := d.collect closesAt (Batch.add d.matcher {} first.path) (max now first.atMs) rest
    if !burst.1.isEmpty then some (⟨burst.1, burst.2.1⟩, burst.2.2.1)
    else if burst.2.2.2 then none
    else d.next? closesAt burst.2.1 burst.2.2.1
termination_by changes => changes.length
decreasing_by exact Nat.lt_succ_of_le (length_collect ..)

theorem length_next? (d : Debouncer) (closesAt now : Nat) (changes : List Change)
    {found : Delivery × List Change} (h : d.next? closesAt now changes = some found) :
    found.2.length < changes.length := by
  fun_induction d.next? closesAt now changes with
  | case1 => cases h
  | case2 now first rest burst =>
    cases h
    exact Nat.lt_succ_of_le (length_collect ..)
  | case3 => cases h
  | case4 now first rest burst _ _ ih =>
    exact Nat.lt_succ_of_lt (Nat.lt_of_lt_of_le (ih h) (length_collect ..))

/-- Every delivery until the stream ends. -/
def deliveries (d : Debouncer) (closesAt now : Nat) (changes : List Change) : List Delivery :=
  match _h : d.next? closesAt now changes with
  | none => []
  | some (delivery, rest) => delivery :: d.deliveries closesAt delivery.atMs rest
termination_by changes.length
decreasing_by exact length_next? d closesAt now changes (by assumption)

/-- Runs over a whole stream. -/
def run (d : Debouncer) (s : ChangeStream) : List Delivery :=
  d.deliveries s.closesAt 0 s.changes

/-- What is found by taking queued batches one after the other, each as soon as it is there. -/
def taken (now : Nat) : List Delivery → List Delivery
  | [] => []
  | delivery :: rest =>
    let atMs := max now delivery.atMs
    { delivery with atMs } :: taken atMs rest

/-- Runs beside its receiver, which takes the batches from a queue. -/
def runQueued (d : Debouncer) (s : ChangeStream) : List Delivery := taken 0 (d.run s)

end Debouncer

end AssetWatch
