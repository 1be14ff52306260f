import AssetWatch.Shutdown
import Mathlib.Algebra.BigOperators.Group.List.Basic
import Mathlib.Algebra.GroupWithZero.Nat

/-!
# Requests and who has heard of them

Handles are cloned and dropped, receivers subscribe and are dropped, requests are made and received,
in any order. What a receiver learns next is settled by what has happened since it subscribed: it
has requests to hear of exactly if more were made than it has consumed. One that lags consumes those
it has missed.
-/

namespace AssetWatch.Shutdown

/-! ## What parties do -/

inductive Act
  | clone (through : Nat)
  | dropHandle (handle : Nat)
  | subscribe (through : Nat)
  | trigger (through : Nat)
  | receive (id : Nat) (reception : Reception)
  | dropReceiver (id : Nat)

def listens (s : Shutdown) (id : Nat) : Bool := (s.receivers[id]?.getD none).isSome

inductive Step (s : Shutdown) : Act → Shutdown → Prop
  | clone {handle : Nat} (held : s.holds handle = true) : Step s (.clone handle) s.clone.2
  | dropHandle {handle : Nat} (held : s.holds handle = true) :
      Step s (.dropHandle handle) (s.dropHandle handle)
  | subscribe {handle : Nat} (held : s.holds handle = true) :
      Step s (.subscribe handle) s.subscribe.2
  | trigger {handle : Nat} (held : s.holds handle = true) : Step s (.trigger handle) s.trigger
  | receive {id : Nat} {reception : Reception} {s' : Shutdown}
      (learns : s.receive? id = some (reception, s')) : Step s (.receive id reception) s'
  | dropReceiver {id : Nat} (listening : s.listens id = true) :
      Step s (.dropReceiver id) (s.dropReceiver id)

/-- All that was done since there is a shutdown, and what it is like now. -/
inductive History : List Act → Shutdown → Prop
  | new : History [] {}
  | step {acts : List Act} {s s' : Shutdown} {act : Act} (past : History acts s)
      (step : Step s act s') : History (acts ++ [act]) s'

/-! ## What a history tells -/

namespace Act

def isClone : Act → Bool
  | .clone _ => true
  | _ => false

def isSubscribe : Act → Bool
  | .subscribe _ => true
  | _ => false

def isTrigger : Act → Bool
  | .trigger _ => true
  | _ => false

def droppedHandle? : Act → Option Nat
  | .dropHandle handle => some handle
  | _ => none

def droppedReceiver? : Act → Option Nat
  | .dropReceiver id => some id
  | _ => none

end Act

def Reception.consumed : Reception → Nat
  | .signal => 1
  | .lagged missed => missed
  | .empty | .closed => 0

def Act.consumedBy (id : Nat) : Act → Nat
  | .receive i reception => if i = id then reception.consumed else 0
  | _ => 0

def clones (acts : List Act) : Nat := acts.countP Act.isClone

def subscriptions (acts : List Act) : Nat := acts.countP Act.isSubscribe

def droppedHandles (acts : List Act) : List Nat := acts.filterMap Act.droppedHandle?

def droppedReceivers (acts : List Act) : List Nat := acts.filterMap Act.droppedReceiver?

/-- The first numbers, but for those that are gone. -/
def remaining (count : Nat) (gone : List Nat) : List Nat :=
  (List.range count).filter fun n => n ∉ gone

def heldHandles (acts : List Act) : List Nat :=
  remaining (clones acts + 1) (droppedHandles acts)

def liveReceivers (acts : List Act) : List Nat :=
  remaining (subscriptions acts) (droppedReceivers acts)

def since : (id : Nat) → List Act → List Act
  | _, [] => []
  | id, .subscribe _ :: acts =>
    match id with
    | 0 => acts
    | id + 1 => since id acts
  | id, _ :: acts => since id acts

def requested (id : Nat) (acts : List Act) : Nat := (since id acts).countP Act.isTrigger

def heard (id : Nat) (acts : List Act) : Nat := ((since id acts).map (Act.consumedBy id)).sum

/-- A receiver that has requests to hear of, so many of them, or that hears of none. -/
def due (unheard : Nat) (isOpen : Bool) : Reception :=
  match unheard with
  | 0 => if isOpen then .empty else .closed
  | 1 => .signal
  | missed + 2 => .lagged (missed + 1)

/-! ## What is left -/

variable {n count : Nat} {gone : List Nat}

theorem mem_remaining : n ∈ remaining count gone ↔ n < count ∧ n ∉ gone := by
  simp [remaining]

/-- Flags tell which of the first numbers are left, and none is gone that was not there. -/
structure Flags (flags : List Bool) (count : Nat) (gone : List Nat) : Prop where
  flags_eq : flags = (List.range count).map fun n => decide (n ∉ gone)
  inside : ∀ n ∈ gone, n < count

namespace Flags

variable {flags : List Bool}

theorem length_eq (h : Flags flags count gone) : flags.length = count := by
  rw [h.flags_eq, List.length_map, List.length_range]

theorem add (h : Flags flags count gone) : Flags (flags ++ [true]) (count + 1) gone := by
  have fresh : count ∉ gone := fun among => Nat.lt_irrefl _ (h.inside _ among)
  refine ⟨?_, fun n among => Nat.lt_succ_of_lt (h.inside n among)⟩
  rw [List.range_succ, List.map_append, ← h.flags_eq]
  simp [fresh]

theorem drop (h : Flags flags count gone) (there : n < count) :
    Flags (flags.set n false) count (gone ++ [n]) := by
  refine ⟨?_, ?_⟩
  · refine List.ext_getElem? fun i => ?_
    rw [h.flags_eq]
    by_cases same : i = n
    · simp [same, there]
    · rw [List.getElem?_set_ne (Ne.symm same), List.getElem?_map, List.getElem?_map]
      by_cases here : i < count <;> simp [here, same]
  · intro i among
    rcases List.mem_append.1 among with among | last
    · exact h.inside i among
    · exact List.mem_singleton.1 last ▸ there

private theorem get_eq_true (h : Flags flags count gone) :
    flags[n]? = some true ↔ n ∈ remaining count gone := by
  rw [mem_remaining, h.flags_eq, List.getElem?_map]
  by_cases there : n < count <;> simp [there]

theorem countP_eq (h : Flags flags count gone) :
    flags.countP id = (remaining count gone).length := by
  rw [h.flags_eq, List.countP_map, remaining, List.countP_eq_length_filter]
  rfl

private theorem any_eq (h : Flags flags count gone) :
    flags.any id = !(remaining count gone).isEmpty := by
  rw [h.flags_eq, remaining, List.any_map, Bool.eq_iff_iff]
  simp

end Flags

/-! ## Since a subscription -/

variable {s s' : Shutdown} {acts more : List Act} {act : Act} {id : Nat}

private theorem since_append (h : id < subscriptions acts) (more : List Act) :
    since id (acts ++ more) = since id acts ++ more := by
  induction acts generalizing id with
  | nil => cases h
  | cons act acts ih =>
    cases act with
    | subscribe =>
      cases id with
      | zero => rfl
      | succ id =>
        refine ih ?_
        simp only [subscriptions, List.countP_cons, Act.isSubscribe, if_true] at h ⊢
        omega
    | _ => exact ih (by simpa [subscriptions, Act.isSubscribe] using h)

/-- A new receiver has the next number, and for it nothing has happened yet. -/
theorem since_subscribe (acts : List Act) (through : Nat) (more : List Act) :
    since (subscriptions acts) (acts ++ .subscribe through :: more) = more := by
  induction acts with
  | nil => rfl
  | cons act acts ih =>
    cases act with
    | subscribe other =>
      have one : subscriptions (.subscribe other :: acts) = subscriptions acts + 1 :=
        List.countP_cons_of_pos rfl
      rw [one]
      exact ih
    | _ => exact ih

theorem requested_append (h : id < subscriptions acts) :
    requested id (acts ++ more) = requested id acts + more.countP Act.isTrigger := by
  rw [requested, since_append h, List.countP_append, requested]

private theorem heard_append (h : id < subscriptions acts) :
    heard id (acts ++ more) = heard id acts + (more.map (Act.consumedBy id)).sum := by
  rw [heard, since_append h, List.map_append, List.sum_append, heard]

private theorem clones_append : clones (acts ++ more) = clones acts + clones more :=
  List.countP_append ..

private theorem subscriptions_append :
    subscriptions (acts ++ more) = subscriptions acts + subscriptions more :=
  List.countP_append ..

private theorem droppedHandles_append :
    droppedHandles (acts ++ more) = droppedHandles acts ++ droppedHandles more :=
  List.filterMap_append ..

private theorem droppedReceivers_append :
    droppedReceivers (acts ++ more) = droppedReceivers acts ++ droppedReceivers more :=
  List.filterMap_append ..

/-! ## What a reception is -/

private theorem consumed_due (unheard : Nat) (isOpen : Bool) :
    (due unheard isOpen).consumed ≤ unheard := by
  match unheard with
  | 0 => cases isOpen <;> decide
  | 1 => exact Nat.le_refl 1
  | missed + 2 => exact Nat.le_succ _

theorem resolves_due (unheard : Nat) (isOpen : Bool) :
    (due unheard isOpen).resolves = true ↔ 0 < unheard ∨ isOpen = false := by
  match unheard with
  | 0 => cases isOpen <;> decide
  | 1 => simp [due, Reception.resolves]
  | missed + 2 => simp [due, Reception.resolves]

private theorem receiveAt_eq (s : Shutdown) (position : Nat) :
    s.receiveAt position =
      let reception := due (s.requests - position) s.isOpen
      (reception, position + reception.consumed) := by
  unfold receiveAt
  split
  · rename_i none
    rw [Nat.sub_eq_zero_of_le none, due]
    cases s.isOpen <;> rfl
  · split
    · rename_i one
      rw [← one, Nat.add_sub_cancel_left]
      rfl
    · obtain ⟨missed, many⟩ : ∃ missed, s.requests = position + (missed + 2) :=
        ⟨s.requests - position - 2, by omega⟩
      have lost : s.requests - 1 - position = missed + 1 := by omega
      have next : s.requests - 1 = position + (missed + 1) := by omega
      rw [lost, next, many, Nat.add_sub_cancel_left]
      rfl

theorem receive?_eq_some_iff {reception : Reception} :
    s.receive? id = some (reception, s') ↔ ∃ position, s.receivers[id]? = some (some position) ∧
      (s.receiveAt position).1 = reception ∧
      { s with receivers := s.receivers.set id (some (s.receiveAt position).2) } = s' := by
  unfold receive?
  split
  · rename_i position found
    simp [found]
  · rename_i other
    simp only [reduceCtorEq, false_iff]
    rintro ⟨position, found, -⟩
    exact other position found

theorem listens_iff :
    s.listens id = true ↔ ∃ position, s.receivers[id]? = some (some position) := by
  unfold listens
  rcases s.receivers[id]? with _ | _ | position <;> simp

theorem resolves_iff_ne_empty {reception : Reception} :
    reception.resolves = true ↔ reception ≠ .empty := by
  cases reception <;> simp [Reception.resolves]

/-! ## What there is agrees with what has happened -/

/-- Who is left is told by the history, and how far each receiver is by what it has heard of what
was requested. -/
structure Account (acts : List Act) (s : Shutdown) : Prop where
  handles : Flags s.handles (clones acts + 1) (droppedHandles acts)
  receivers : Flags (s.receivers.map Option.isSome) (subscriptions acts) (droppedReceivers acts)
  positions : ∀ {id position}, s.receivers[id]? = some (some position) →
    position ≤ s.requests ∧ position + requested id acts = s.requests + heard id acts

private theorem account_new : Account [] {} where
  handles := ⟨rfl, by simp [droppedHandles]⟩
  receivers := ⟨rfl, by simp [droppedReceivers]⟩
  positions := by simp

namespace Account

private theorem lt_subscriptions (h : Account acts s) {position : Option Nat}
    (found : s.receivers[id]? = some position) : id < subscriptions acts := by
  obtain ⟨inside, -⟩ := List.getElem?_eq_some_iff.1 found
  rwa [← h.receivers.length_eq, List.length_map]

private theorem mem_liveReceivers (h : Account acts s) :
    id ∈ liveReceivers acts ↔ ∃ position, s.receivers[id]? = some (some position) := by
  rw [liveReceivers, ← h.receivers.get_eq_true, List.getElem?_map]
  rcases s.receivers[id]? with _ | _ | position <;> simp

theorem receiverCount_eq (h : Account acts s) : s.receiverCount = (liveReceivers acts).length := by
  rw [liveReceivers, ← h.receivers.countP_eq, List.countP_map]
  rfl

theorem isOpen_eq_false (h : Account acts s) : s.isOpen = false ↔ heldHandles acts = [] := by
  rw [isOpen, h.handles.any_eq, heldHandles]
  simp

/-- Nothing becomes of the handles by an act that is not about them. -/
theorem handles_append (h : Account acts s) (cloned : clones [act] = 0)
    (dropped : droppedHandles [act] = []) :
    Flags s.handles (clones (acts ++ [act]) + 1) (droppedHandles (acts ++ [act])) := by
  rw [clones_append, droppedHandles_append, cloned, dropped, List.append_nil]
  exact h.handles

/-- Nothing becomes of the receivers by an act that is not about them. -/
theorem receivers_append (h : Account acts s) (subscribed : subscriptions [act] = 0)
    (dropped : droppedReceivers [act] = []) :
    Flags (s.receivers.map Option.isSome) (subscriptions (acts ++ [act]))
      (droppedReceivers (acts ++ [act])) := by
  rw [subscriptions_append, droppedReceivers_append, subscribed, dropped, List.append_nil]
  exact h.receivers

/-- Where a receiver was before an act, with what the act adds to the account. -/
theorem positions_append (h : Account acts s) (act : Act) {position : Nat}
    (found : s.receivers[id]? = some (some position)) :
    position ≤ s.requests ∧
      position + requested id (acts ++ [act]) + act.consumedBy id =
        s.requests + heard id (acts ++ [act]) + if act.isTrigger then 1 else 0 := by
  have subscribed := h.lt_subscriptions found
  obtain ⟨inside, balance⟩ := h.positions found
  rw [requested_append subscribed, heard_append subscribed, List.countP_singleton,
    List.map_singleton, List.sum_singleton]
  omega

end Account

private theorem isOpen_of_holds {handle : Nat} (held : s.holds handle = true) :
    s.isOpen = true := by
  refine List.any_eq_true.2 ⟨true, List.mem_of_getElem? (i := handle) ?_, rfl⟩
  rw [holds] at held
  rcases found : s.handles[handle]? with _ | _ | _ <;> simp_all

private theorem lt_of_holds {handle : Nat} (held : s.holds handle = true) :
    handle < s.handles.length := by
  refine Nat.lt_of_not_le fun outside => ?_
  rw [holds, List.getElem?_eq_none outside] at held
  cases held

variable {i position place : Nat} {receivers : List (Option Nat)}

/-- Who is found after one was set is that one, or was there before. -/
theorem of_found_set {value : Option Nat}
    (found : (receivers.set i value)[id]? = some (some position)) :
    (i = id ∧ value = some position) ∨ (i ≠ id ∧ receivers[id]? = some (some position)) := by
  by_cases same : i = id
  · subst same
    have inside := (List.getElem?_eq_some_iff.1 found).1
    rw [List.getElem?_set_self (by simpa using inside)] at found
    exact .inl ⟨rfl, Option.some.inj found⟩
  · rw [List.getElem?_set_ne same] at found
    exact .inr ⟨same, found⟩

/-- Who is found after one was added is that one, or was there before. -/
theorem of_found_append {next : Nat}
    (found : (receivers ++ [some next])[id]? = some (some position)) :
    (id = receivers.length ∧ next = position) ∨ receivers[id]? = some (some position) := by
  rcases Nat.lt_or_ge id receivers.length with before | behind
  · rw [List.getElem?_append_left before] at found
    exact .inr found
  · have inside := (List.getElem?_eq_some_iff.1 found).1
    rw [List.length_append, List.length_singleton] at inside
    obtain rfl : id = receivers.length := Nat.le_antisymm (Nat.le_of_lt_succ inside) behind
    rw [List.getElem?_concat_length] at found
    exact .inl ⟨rfl, Option.some.inj (Option.some.inj found)⟩

/-- A receiver that moves is still there. -/
theorem map_isSome_set (found : receivers[i]? = some (some place)) (next : Nat) :
    (receivers.set i (some next)).map Option.isSome = receivers.map Option.isSome := by
  have flag : (receivers.map Option.isSome)[i]? = some true := by
    rw [List.getElem?_map, found]
    rfl
  obtain ⟨inside, here⟩ := List.getElem?_eq_some_iff.1 flag
  rw [List.map_set, Option.isSome_some, ← here, List.set_getElem_self]

namespace Account

/-- A new receiver has heard of nothing, for nothing was requested since it subscribed. -/
theorem subscribe (h : Account acts s) (handle : Nat) :
    Account (acts ++ [.subscribe handle]) s.subscribe.2 where
  handles := h.handles_append rfl rfl
  receivers := by
    have none : droppedReceivers [.subscribe handle] = [] := rfl
    rw [subscriptions_append, droppedReceivers_append, none, List.append_nil,
      Shutdown.subscribe, List.map_append]
    exact h.receivers.add
  positions {id position} found := by
    have number : s.receivers.length = subscriptions acts := by
      rw [← h.receivers.length_eq, List.length_map]
    rcases of_found_append found with ⟨rfl, rfl⟩ | before
    · rw [requested, heard, number, since_subscribe acts handle []]
      exact ⟨Nat.le_refl _, rfl⟩
    · exact h.positions_append (.subscribe handle) before

/-- A receiver goes as far on as it consumes requests. -/
theorem receive (h : Account acts s) (here : s.receivers[i]? = some (some place)) :
    Account (acts ++ [.receive i (s.receiveAt place).1])
      { s with receivers := s.receivers.set i (some (s.receiveAt place).2) } where
  handles := h.handles_append rfl rfl
  receivers := by
    rw [map_isSome_set here]
    exact h.receivers_append rfl rfl
  positions {id position} found := by
    have learned := receiveAt_eq s place
    have most := consumed_due (s.requests - place) s.isOpen
    rcases of_found_set found with ⟨rfl, moved⟩ | ⟨other, before⟩
    · obtain ⟨inside, balance⟩ := h.positions_append (.receive i (s.receiveAt place).1) here
      simp only [Act.consumedBy, if_true, Act.isTrigger, Bool.false_eq_true, if_false] at balance
      cases moved
      rw [learned] at balance ⊢
      dsimp only at balance ⊢
      omega
    · have balance := h.positions_append (.receive i (s.receiveAt place).1) before
      simpa [Act.consumedBy, other, Act.isTrigger] using balance

theorem dropReceiver (h : Account acts s) (here : s.receivers[i]? = some (some place)) :
    Account (acts ++ [.dropReceiver i]) (s.dropReceiver i) where
  handles := h.handles_append rfl rfl
  receivers := by
    rw [subscriptions_append, droppedReceivers_append, Shutdown.dropReceiver, List.map_set]
    exact h.receivers.drop (h.lt_subscriptions here)
  positions {id position} found := by
    rcases of_found_set found with ⟨-, gone⟩ | ⟨-, before⟩
    · cases gone
    · exact h.positions_append (.dropReceiver i) before

end Account

theorem Step.account (h : Step s act s') (account : Account acts s) :
    Account (acts ++ [act]) s' := by
  cases h with
  | @clone handle held =>
    refine ⟨?_, account.receivers_append rfl rfl, account.positions_append (.clone handle)⟩
    have none : droppedHandles [.clone handle] = [] := rfl
    rw [clones_append, droppedHandles_append, none, List.append_nil]
    exact account.handles.add
  | @dropHandle handle held =>
    refine ⟨?_, account.receivers_append rfl rfl, account.positions_append (.dropHandle handle)⟩
    have inside : handle < clones acts + 1 := account.handles.length_eq ▸ lt_of_holds held
    rw [clones_append, droppedHandles_append]
    exact account.handles.drop inside
  | @subscribe handle held => exact account.subscribe handle
  | @trigger handle held =>
    refine ⟨account.handles_append rfl rfl, account.receivers_append rfl rfl, fun found => ?_⟩
    obtain ⟨inside, balance⟩ := account.positions_append (.trigger handle) found
    simp only [Shutdown.trigger, Act.consumedBy, Act.isTrigger, if_true] at balance ⊢
    omega
  | receive learns =>
    obtain ⟨place, here, rfl, rfl⟩ := receive?_eq_some_iff.1 learns
    exact account.receive here
  | dropReceiver listening =>
    obtain ⟨place, here⟩ := listens_iff.1 listening
    exact account.dropReceiver here

theorem History.account (h : History acts s) : Account acts s := by
  induction h with
  | new => exact account_new
  | step past step ih => exact step.account ih

/-- Whoever asks, subscribes, or hands out a handle has one. -/
theorem Step.isOpen_eq_false (h : Step s act s') (closed : s.isOpen = false) :
    s'.isOpen = false := by
  have nobody {handle : Nat} (held : s.holds handle = true) : False := by
    rw [isOpen_of_holds held] at closed
    cases closed
  cases h with
  | clone held | dropHandle held | subscribe held | trigger held => exact (nobody held).elim
  | receive learns =>
    obtain ⟨position, -, -, rfl⟩ := receive?_eq_some_iff.1 learns
    exact closed
  | dropReceiver => exact closed

theorem mem_liveReceivers_append (live : id ∈ liveReceivers acts) (kept : act ≠ .dropReceiver id) :
    id ∈ liveReceivers (acts ++ [act]) := by
  obtain ⟨subscribed, stays⟩ := mem_remaining.1 live
  rw [liveReceivers, subscriptions_append, droppedReceivers_append]
  refine mem_remaining.2 ⟨Nat.lt_add_right _ subscribed, fun gone => ?_⟩
  rcases List.mem_append.1 gone with before | now
  · exact stays before
  · cases act <;> simp_all [droppedReceivers, Act.droppedReceiver?]

private theorem consumedBy_of_ne (other : ∀ reception, act ≠ .receive id reception) :
    act.consumedBy id = 0 := by
  cases act with
  | receive i reception =>
    refine if_neg fun same => other reception ?_
    rw [same]
  | _ => rfl

theorem heard_append_of_ne (subscribed : id < subscriptions acts)
    (others : ∀ reception, .receive id reception ∉ more) : heard id (acts ++ more) = heard id acts := by
  have nothing : (more.map (Act.consumedBy id)).sum = 0 := by
    refine List.sum_eq_zero_iff_forall_eq_nat.2 fun n hn => ?_
    obtain ⟨act, among, rfl⟩ := List.mem_map.1 hn
    exact consumedBy_of_ne fun reception same => others reception (same ▸ among)
  rw [heard_append subscribed, nothing, Nat.add_zero]

/-! ## What a receiver learns next -/

/-- A receiver hears of what was requested since it subscribed and what it has not consumed, or
learns that nobody is left who can ask for anything. -/
theorem History.receive? (h : History acts s) (live : id ∈ liveReceivers acts) :
    heard id acts ≤ requested id acts ∧
    ∃ s', s.receive? id =
      some (due (requested id acts - heard id acts) (!(heldHandles acts).isEmpty), s') := by
  obtain ⟨position, found⟩ := h.account.mem_liveReceivers.1 live
  obtain ⟨inside, balance⟩ := h.account.positions found
  have unheard : s.requests - position = requested id acts - heard id acts := by omega
  have isOpen : s.isOpen = !(heldHandles acts).isEmpty := h.account.handles.any_eq
  refine ⟨by omega, _, receive?_eq_some_iff.2 ⟨position, found, ?_, rfl⟩⟩
  rw [receiveAt_eq, ← unheard, ← isOpen]

/-- A receiver learns something, other than that there is nothing yet, exactly if something was
requested since it subscribed that it has not consumed, or nobody is left who can ask. -/
theorem History.resolves_iff (h : History acts s) (live : id ∈ liveReceivers acts) :
    heard id acts ≤ requested id acts ∧
    ∃ reception s', s.receive? id = some (reception, s') ∧
      (reception.resolves = true ↔ heard id acts < requested id acts ∨ heldHandles acts = []) := by
  obtain ⟨most, s', learns⟩ := h.receive? live
  refine ⟨most, _, s', learns, ?_⟩
  rw [resolves_due, Nat.sub_pos_iff_lt]
  simp

/-- What a receiver has not heard of stays there for it, whatever others do and however often they
ask again. -/
theorem History.still_unheard {before more : List Act} (h : History (before ++ more) s)
    (live : id ∈ liveReceivers (before ++ more)) (subscribed : id < subscriptions before)
    (slow : ∀ reception, .receive id reception ∉ more)
    (unheard : heard id before < requested id before) :
    ∃ reception s', s.receive? id = some (reception, s') ∧
      (reception = .signal ∨ ∃ missed, reception = .lagged missed) := by
  obtain ⟨-, s', learns⟩ := h.receive? live
  rw [heard_append_of_ne subscribed slow, requested_append subscribed] at learns
  obtain ⟨rest, some⟩ : ∃ rest, requested id before + more.countP Act.isTrigger - heard id before =
      rest + 1 := ⟨_, (Nat.sub_add_cancel (by omega)).symm⟩
  rw [some] at learns
  refine ⟨_, s', learns, ?_⟩
  cases rest with
  | zero => exact .inl rfl
  | succ missed => exact .inr ⟨missed + 1, rfl⟩

/-- A receiver does not hear of what was requested before it subscribed. -/
theorem History.late_receive {before more : List Act} {through : Nat}
    (h : History (before ++ .subscribe through :: more) s)
    (live : subscriptions before ∈ liveReceivers (before ++ .subscribe through :: more))
    (quiet : ∀ act ∈ more, act.isTrigger = false) :
    ∃ s', s.receive? (subscriptions before) =
      some (if heldHandles (before ++ .subscribe through :: more) = [] then .closed else .empty,
        s') := by
  obtain ⟨-, s', learns⟩ := h.receive? live
  have none : requested (subscriptions before) (before ++ .subscribe through :: more) = 0 := by
    rw [requested, since_subscribe, List.countP_eq_zero]
    exact fun act among => Bool.not_eq_true _ ▸ quiet act among
  rw [none, Nat.zero_sub] at learns
  refine ⟨s', learns.trans ?_⟩
  cases heldHandles (before ++ .subscribe through :: more) <;> rfl

end AssetWatch.Shutdown
