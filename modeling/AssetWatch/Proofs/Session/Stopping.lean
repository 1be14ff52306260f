import AssetWatch.Proofs.Session.Conservation
import AssetWatch.Proofs.Shutdown.Requests

/-!
# No request to stop is lost

A receiver hears of every request that was made since it subscribed, however often more of them are
made before it listens; and a session takes whatever its receiver hears for a request to stop,
whether it waits or builds.
-/

namespace AssetWatch

namespace WatchLoop

variable {l l' : WatchLoop}

/-- Nothing but the shutdown stops a loop. -/
theorem phase_ne_stopped {e : LoopEvent} (own : ∀ reception, e ≠ .shutdown reception)
    (step : l.step? e = some l') : l'.phase ≠ .stopped := by
  obtain ⟨going, move⟩ := move_of_step? step
  cases move with
  | shutdown reception => exact (own reception rfl).elim
  | takeBatches | takeUpdate | finish => exact fun stopped => by cases stopped
  | _ => exact going

/-- Whatever else there is to learn than nothing, a loop takes it for a request to stop. -/
theorem step?_shutdown (going : l.phase ≠ .stopped) {reception : Shutdown.Reception} :
    l.step? (.shutdown reception) = some l' ↔
      reception.resolves = true ∧ { l with phase := .stopped } = l' := by
  rw [step?_eq_some_iff]
  constructor
  · rintro ⟨-, move⟩
    cases move with
    | shutdown _ resolves => exact ⟨resolves, rfl⟩
  · rintro ⟨resolves, rfl⟩
    exact ⟨going, .shutdown reception resolves⟩

end WatchLoop

namespace Shutdown

variable {s s' : Shutdown} {acts : List Act} {act : Act} {id : Nat} {l : WatchLoop}

def Asked (id : Nat) (acts : List Act) : Prop := 0 < requested id acts ∨ heldHandles acts = []

private theorem History.asked_append (h : History acts s) (live : id ∈ liveReceivers acts)
    (step : Step s act s') (asked : Asked id acts) : Asked id (acts ++ [act]) := by
  rcases asked with some | nobody
  · rw [Asked, requested_append (mem_remaining.1 live).1]
    exact .inl (Nat.add_pos_left some _)
  · have closed := step.isOpen_eq_false (h.account.isOpen_eq_false.2 nobody)
    exact .inr ((h.step step).account.isOpen_eq_false.1 closed)

/-! ## A session and its receiver -/

/-- A session came with a receiver that had heard nothing yet. It goes on, or stops by what its
receiver hears, while others do what they like. -/
inductive Attends (id : Nat) : List Act → Shutdown → WatchLoop → Prop
  | enter {acts : List Act} {s : Shutdown} {l : WatchLoop} (past : History acts s)
      (live : id ∈ liveReceivers acts) (untouched : heard id acts = 0) (going : l.phase ≠ .stopped) :
      Attends id acts s l
  | others {acts : List Act} {s s' : Shutdown} {l : WatchLoop} {act : Act}
      (attends : Attends id acts s l) (receives : ∀ reception, act ≠ .receive id reception)
      (drops : act ≠ .dropReceiver id) (step : Step s act s') : Attends id (acts ++ [act]) s' l
  | goesOn {acts : List Act} {s : Shutdown} {l l' : WatchLoop} {e : LoopEvent}
      (attends : Attends id acts s l) (own : ∀ reception, e ≠ .shutdown reception)
      (step : l.step? e = some l') : Attends id acts s l'
  | hears {acts : List Act} {s s' : Shutdown} {l l' : WatchLoop} {reception : Reception}
      (attends : Attends id acts s l) (learns : s.receive? id = some (reception, s'))
      (step : l.step? (.shutdown reception) = some l') :
      Attends id (acts ++ [.receive id reception]) s' l'

private theorem resolves_iff_asked (h : History acts s) (live : id ∈ liveReceivers acts)
    (untouched : heard id acts = 0) {reception : Reception}
    (learns : s.receive? id = some (reception, s')) : reception.resolves = true ↔ Asked id acts := by
  obtain ⟨-, next, due⟩ := h.receive? live
  rw [learns] at due
  cases due
  rw [resolves_due, untouched, Nat.sub_zero, Asked]
  simp

/-- As long as a session goes on, its receiver has heard nothing; and it has stopped only if it was
asked to. -/
structure Attentive (id : Nat) (acts : List Act) (s : Shutdown) (l : WatchLoop) : Prop where
  past : History acts s
  live : id ∈ liveReceivers acts
  going : l.phase ≠ .stopped → heard id acts = 0
  stopped : l.phase = .stopped → Asked id acts

private theorem Attends.attentive (h : Attends id acts s l) : Attentive id acts s l := by
  induction h with
  | enter past live untouched going =>
    exact ⟨past, live, fun _ => untouched, fun stopped => (going stopped).elim⟩
  | @others acts s s' l act attends receives drops step ih =>
    have none : heard id (acts ++ [act]) = heard id acts :=
      heard_append_of_ne (mem_remaining.1 ih.live).1 fun reception among =>
        receives reception (List.mem_singleton.1 among).symm
    exact ⟨ih.past.step step, mem_liveReceivers_append ih.live drops,
      fun going => none.trans (ih.going going),
      fun stopped => ih.past.asked_append ih.live step (ih.stopped stopped)⟩
  | goesOn attends own step ih =>
    have before := (WatchLoop.move_of_step? step).1
    exact ⟨ih.past, ih.live, fun _ => ih.going before,
      fun stopped => (WatchLoop.phase_ne_stopped own step stopped).elim⟩
  | hears attends learns step ih =>
    have before := (WatchLoop.move_of_step? step).1
    obtain ⟨resolves, rfl⟩ := (WatchLoop.step?_shutdown before).1 step
    have asked := (resolves_iff_asked ih.past ih.live (ih.going before) learns).1 resolves
    exact ⟨ih.past.step (.receive learns), mem_liveReceivers_append ih.live (by simp),
      fun going => (going rfl).elim,
      fun _ => ih.past.asked_append ih.live (.receive learns) asked⟩

/-! ## No request is lost -/

/-- Whatever is done with handles and receivers, in whatever order: a receiver that listens learns
of every request since it subscribed that it has not consumed, also if others follow, and of none
before; those that listen are counted; and a session that goes on stops by whatever its receiver
learns, which is something exactly if it was asked to stop since its receiver subscribed. -/
theorem no_request_is_lost (h : History acts s) :
    (∀ id ∈ liveReceivers acts, heard id acts ≤ requested id acts ∧
      ∃ reception s', s.receive? id = some (reception, s') ∧
        (reception.resolves = true ↔
          heard id acts < requested id acts ∨ heldHandles acts = [])) ∧
    (∀ before more, acts = before ++ more → ∀ id ∈ liveReceivers acts, id < subscriptions before →
      (∀ reception, .receive id reception ∉ more) → heard id before < requested id before →
      ∃ reception s', s.receive? id = some (reception, s') ∧
        (reception = .signal ∨ ∃ missed, reception = .lagged missed)) ∧
    (∀ before through more, acts = before ++ .subscribe through :: more →
      (∀ act ∈ more, act.isTrigger = false) → subscriptions before ∈ liveReceivers acts →
      ∃ s', s.receive? (subscriptions before) =
        some (if heldHandles acts = [] then .closed else .empty, s')) ∧
    s.receiverCount = (liveReceivers acts).length ∧
    ∀ id l, Attends id acts s l →
      (l.phase = .stopped → Asked id acts) ∧
      (l.phase ≠ .stopped →
        (∀ reception, reception ≠ .empty →
          l.step? (.shutdown reception) = some { l with phase := .stopped }) ∧
        ∃ reception s', s.receive? id = some (reception, s') ∧
          (reception ≠ .empty ↔ Asked id acts)) := by
  refine ⟨fun id live => h.resolves_iff live, ?_, ?_, h.account.receiverCount_eq, ?_⟩
  · rintro before more rfl id live subscribed slow unheard
    exact h.still_unheard live subscribed slow unheard
  · rintro before through more rfl quiet live
    exact h.late_receive live quiet
  · intro id l attends
    have attentive := attends.attentive
    refine ⟨attentive.stopped, fun going => ⟨fun reception some => ?_, ?_⟩⟩
    · exact (WatchLoop.step?_shutdown going).2 ⟨resolves_iff_ne_empty.2 some, rfl⟩
    · obtain ⟨-, reception, s', learns, -⟩ := h.resolves_iff attentive.live
      refine ⟨reception, s', learns, ?_⟩
      rw [← resolves_iff_ne_empty]
      exact resolves_iff_asked h attentive.live (attentive.going going) learns

/-- The last request comes through a second handle, when the first is no longer there; one receiver
subscribed before and one after all. -/
theorem no_request_is_lost_lagged :
    let acts : List Act := [.subscribe 0, .trigger 0, .clone 0, .dropHandle 0, .trigger 1,
      .subscribe 1]
    let s : Shutdown :=
      { requests := 2, handles := [false, true], receivers := [some 0, some 2] }
    let l := WatchLoop.start {} [] ⟨"/p"⟩ (.ofCategories ["js"])
    History acts s ∧
    (∃ reception s', s.receive? 0 = some (reception, s') ∧
      (reception = .signal ∨ ∃ missed, reception = .lagged missed)) ∧
    (∃ s', s.receive? 1 = some (.empty, s')) ∧ s.receiverCount = 2 ∧
    ∃ reception s', s.receive? 0 = some (reception, s') ∧
      l.step? (.shutdown reception) = some { l with phase := .stopped } := by
  intro acts s l
  have past : History acts s :=
    (((((History.new.step (.subscribe rfl)).step (.trigger rfl)).step (.clone rfl)).step
      (.dropHandle rfl)).step (.trigger rfl)).step (.subscribe rfl)
  obtain ⟨-, slow, late, counted, stops⟩ := no_request_is_lost past
  have first : 0 ∈ liveReceivers acts := by decide
  have second : 1 ∈ liveReceivers acts := by decide
  have going : l.phase ≠ .stopped := fun stopped => by cases stopped
  obtain ⟨taken, reception, s', learns, asked⟩ := (stops 0 l (.enter past first rfl going)).2 going
  refine ⟨past, ?_, ?_, counted, reception, s', learns, taken reception (asked.2 (.inl (by decide)))⟩
  · exact slow [.subscribe 0, .trigger 0] _ rfl 0 first (by decide) (by simp) (by decide)
  · exact late [.subscribe 0, .trigger 0, .clone 0, .dropHandle 0, .trigger 1] 1 [] rfl (by simp)
      second

end Shutdown

end AssetWatch
