import AssetWatch.Proofs.Run.FanOut

/-!
# One job after the other

With a single slot a fan-out is a plain loop: a job is started and runs alone until it ends, and
what is behind a job that halts the work is skipped. Up to there it makes no difference that the
work may be halted.
-/

namespace AssetWatch

def Work.patient {α ι β σ : Type} (w : Work α ι β σ) : Work α ι β σ :=
  { w with halts := fun _ => false }

namespace FanOut

variable {α ι β γ σ : Type} {w : Work α ι β σ} {next : List ι → σ → (Nat × (ι → β)) × σ}
  {f : FanOut α ι β} {jobs : List α} {state : σ}

def single (w : Work α ι β σ) (next : List ι → σ → (Nat × (ι → β)) × σ) (a : α) (state : σ) :
    β × σ :=
  match w.start a state with
  | (.inl job, state) =>
    let ((_, result), state) := next [job] state
    (result job, w.note (result job) state)
  | (.inr result, state) => (result, w.note result state)

def passAll (w : Work α ι β σ) (jobs : List α) (state : σ) : σ :=
  jobs.foldl (fun state a => w.passOver a state) state

/-- Does jobs one after the other, and skips those behind one that halts the work. -/
def sequence (w : Work α ι β σ) (next : List ι → σ → (Nat × (ι → β)) × σ) :
    List α → σ → List β × σ
  | [], state => ([], state)
  | a :: jobs, state =>
    let (result, state) := single w next a state
    if w.halts result then (result :: jobs.map w.skip, passAll w jobs state)
    else
      let (results, state) := sequence w next jobs state
      (result :: results, state)

private theorem sequence_cons_of_halts {a : α} (halts : w.halts (single w next a state).1 = true) :
    sequence w next (a :: jobs) state =
      ((single w next a state).1 :: jobs.map w.skip, passAll w jobs (single w next a state).2) := by
  simp only [sequence, halts, if_true]

private theorem sequence_cons_of_goesOn {a : α}
    (goesOn : w.halts (single w next a state).1 = false) :
    sequence w next (a :: jobs) state =
      ((single w next a state).1 :: (sequence w next jobs (single w next a state).2).1,
        (sequence w next jobs (single w next a state).2).2) := by
  simp only [sequence, goesOn, Bool.false_eq_true, if_false]

theorem sequence_patient_cons {a : α} : sequence w.patient next (a :: jobs) state =
    ((single w next a state).1 :: (sequence w.patient next jobs (single w next a state).2).1,
      (sequence w.patient next jobs (single w next a state).2).2) := sequence_cons_of_goesOn rfl

theorem length_sequence (jobs : List α) (state : σ) :
    (sequence w next jobs state).1.length = jobs.length := by
  induction jobs generalizing state with
  | nil => rfl
  | cons a jobs ih =>
    cases halts : w.halts (single w next a state).1 with
    | true => simp [sequence_cons_of_halts halts]
    | false => simp [sequence_cons_of_goesOn halts, ih]

/-! ## A fan-out with one slot -/

/-- While a job runs alone, nothing is started. -/
theorem fill_full (full : w.limit ≤ f.running.length) (waiting : List (Nat × α)) :
    fill w waiting f state = ({ f with waiting }, state) := by
  cases waiting with
  | nil => rfl
  | cons first rest => rw [fill, if_neg (Nat.not_lt.2 full)]

/-- The numbers of jobs with what came of them, the last one in front. -/
def record (waiting : List (Nat × α)) (results : List β) : List (Nat × β) :=
  ((waiting.map (·.1)).zip results).reverse

private theorem record_cons (first : Nat × α) (rest : List (Nat × α)) (b : β) (results : List β) :
    record (first :: rest) (b :: results) = record rest results ++ [(first.1, b)] := by
  simp [record]

/-- Jobs that are skipped are put down like those that were done. -/
theorem settle_of_halts {number : Nat} {b : β} (halts : w.halts b = true) :
    f.settle w number b state =
      ({ f with
          waiting := []
          finished := record f.waiting ((f.waiting.map (·.2)).map w.skip) ++
            (number, b) :: f.finished },
        passAll w (f.waiting.map (·.2)) (w.note b state)) := by
  simp [settle, halts, record, passAll, List.zip_map', List.map_reverse, List.foldl_map]

private theorem steps_idle (idle : f.running = []) (count : Nat) :
    f.steps w next count state = (f, state) := by
  cases count <;> simp [steps, isDone, idle]

/-- The only job that runs is the next to end, and then its slot is filled. -/
theorem steps_alone {number : Nat} {job : ι} (alone : f.running = [(number, job)]) (count : Nat) :
    f.steps w next (count + 1) state =
      let ended := next [job] state
      let settled := { f with running := [] }.settle w number (ended.1.2 job) ended.2
      let refilled := settled.1.refill w settled.2
      refilled.1.steps w next count refilled.2 := by
  simp [steps, isDone, complete, job?, alone, Nat.mod_one]

/-- A job that has its result at once is settled before the slots are filled. -/
theorem fill_cons_of_result {i : Nat} {a : α} {b : β} {now : σ} (rest : List (Nat × α))
    (free : f.running.length < w.limit) (refused : w.start a state = (.inr b, now)) :
    fill w ((i, a) :: rest) f state =
      let settled := { f with waiting := rest }.settle w i b now
      settled.1.refill w settled.2 := by
  rw [fill, if_pos free, refused]
  dsimp only
  cases halts : w.halts b with
  | true =>
    rw [if_pos rfl, settle_of_halts halts]
    rfl
  | false =>
    rw [if_neg Bool.false_ne_true, settle_of_goesOn halts]
    rfl

/-- When nothing runs, these jobs are done as the loop does them. -/
def DoneInSequence (w : Work α ι β σ) (next : List ι → σ → (Nat × (ι → β)) × σ)
    (waiting : List (Nat × α)) : Prop :=
  ∀ (f : FanOut α ι β) (state : σ) (count : Nat), f.running = [] → waiting.length ≤ count →
    let filled := fill w waiting f state
    let done := filled.1.steps w next count filled.2
    let looped := sequence w next (waiting.map (·.2)) state
    done.1.finished = record waiting looped.1 ++ f.finished ∧ done.2 = looped.2

theorem DoneInSequence.settle {rest : List (Nat × α)} {i : Nat} {a : α} {b : β} {now : σ}
    {count : Nat} (others : DoneInSequence w next rest) (idle : f.running = [])
    (enough : rest.length ≤ count) (ended : single w next a state = (b, w.note b now)) :
    let settled := { f with waiting := rest }.settle w i b now
    let refilled := settled.1.refill w settled.2
    let done := refilled.1.steps w next count refilled.2
    let looped := sequence w next (a :: rest.map (·.2)) state
    done.1.finished = record ((i, a) :: rest) looped.1 ++ f.finished ∧ done.2 = looped.2 := by
  have result : (single w next a state).1 = b := congrArg Prod.fst ended
  cases halts : w.halts b with
  | true =>
    rw [settle_of_halts halts, sequence_cons_of_halts (result ▸ halts), ended]
    simp [refill, fill, steps_idle, idle, record_cons]
  | false =>
    rw [settle_of_goesOn halts, sequence_cons_of_goesOn (result ▸ halts), ended]
    have done := others { f with waiting := rest, finished := (i, b) :: f.finished } (w.note b now)
      count idle enough
    simpa [refill, record_cons] using done

/-- What waits is done by the loop. -/
theorem doneInSequence (next : List ι → σ → (Nat × (ι → β)) × σ) (one : w.limit = 1)
    (waiting : List (Nat × α)) : DoneInSequence w next waiting := by
  induction waiting with
  | nil =>
    intro f state count idle _
    cases count <;> simp [fill, steps, isDone, idle, sequence, record]
  | cons first rest ih =>
    obtain ⟨i, a⟩ := first
    intro f state count idle enough
    have free : f.running.length < w.limit := by simp [idle, one]
    rcases started : w.start a state with ⟨job | b, now⟩
    · have alone : f.running ++ [(i, job)] = [(i, job)] := by rw [idle, List.nil_append]
      obtain ⟨count, rfl⟩ := Nat.exists_eq_add_of_lt (Nat.lt_of_lt_of_le (Nat.succ_pos _) enough)
      rw [Nat.zero_add] at enough ⊢
      rw [fill, if_pos free, started]
      dsimp only
      rw [alone, fill_full (by simp [one]), steps_alone rfl]
      exact ih.settle (f := { f with running := [] }) rfl (Nat.le_of_succ_le_succ enough)
        (by simp [single, started])
    · rw [fill_cons_of_result rest free started]
      exact ih.settle idle (Nat.le_of_succ_le enough) (by simp [single, started])

/-- What was put down for the jobs comes out in their order. -/
theorem results_of_record {bs : List β} (same : bs.length = jobs.length)
    (finished : f.finished = record (jobs.mapIdx fun i a => (i, a)) bs) : f.results = bs := by
  have numbers : (jobs.mapIdx fun i a => (i, a)).map (·.1) = List.range jobs.length := by
    rw [List.range_eq_range', List.mapIdx_eq_zipIdx_map]
    simp [Function.comp_def]
  rw [record, numbers] at finished
  have once : (f.finished.map (·.1)).Perm (List.range jobs.length) := by
    rw [finished, List.map_reverse, List.map_fst_zip (by simp [same])]
    exact List.reverse_perm _
  have values : ∀ e ∈ f.finished, jobs[e.1]?.map (fun _ => bs[e.1]?) = some (some e.2) := by
    intro e he
    rw [finished, List.mem_reverse] at he
    obtain ⟨n, found⟩ := List.mem_iff_getElem?.1 he
    obtain ⟨number, result⟩ := List.getElem?_zip_eq_some.1 found
    obtain ⟨inside, rfl⟩ : n < jobs.length ∧ n = e.1 := by
      simpa [List.getElem?_eq_some_iff] using number
    simp [inside, result]
  have results : f.results.map some = jobs.mapIdx fun n _ => bs[n]? := map_results some once values
  refine (List.map_inj_right fun _ _ => Option.some.inj).1 (results.trans ?_)
  refine List.ext_getElem (by simp [same]) fun n _ inside => ?_
  simp

/-- With one slot jobs are done one after the other. -/
theorem run_eq_sequence (one : w.limit = 1) (jobs : List α) (state : σ) :
    run w next jobs state = sequence w next jobs state := by
  obtain ⟨finished, reached⟩ := doneInSequence next one (jobs.mapIdx fun i a => (i, a))
    (ofJobs jobs) state jobs.length rfl (by simp)
  have same : (jobs.mapIdx fun i a => (i, a)).map (·.2) = jobs :=
    List.ext_getElem? fun n => by simp [Function.comp_def]
  rw [same] at finished reached
  refine Prod.ext ?_ reached
  exact results_of_record (length_sequence ..) (finished.trans (List.append_nil _))

/-! ## Up to the first job that halts the work -/

/-- Where nothing would halt the work, it makes no difference that something could. -/
theorem sequence_of_forall
    (goesOn : ∀ b ∈ (sequence w.patient next jobs state).1, w.halts b = false) :
    sequence w next jobs state = sequence w.patient next jobs state := by
  induction jobs generalizing state with
  | nil => rfl
  | cons a jobs ih =>
    rw [sequence_patient_cons] at goesOn ⊢
    obtain ⟨first, others⟩ := List.forall_mem_cons.1 goesOn
    rw [sequence_cons_of_goesOn first, ih others]

private theorem keeps_passAll {I : σ → Prop}
    (passed : ∀ a {state}, I state → I (w.passOver a state)) (jobs : List α) (hs : I state) :
    I (passAll w jobs state) :=
  List.foldlRecOn jobs _ hs fun _ hs a _ => passed a hs

/-- What every job keeps, done or passed over, all of them keep. -/
theorem keeps_sequence {I : σ → Prop} (keeps : ∀ a {state}, I state → I (single w next a state).2)
    (passed : ∀ a {state}, I state → I (w.passOver a state)) (jobs : List α) (hs : I state) :
    I (sequence w next jobs state).2 := by
  induction jobs generalizing state with
  | nil => exact hs
  | cons a jobs ih =>
    cases halts : w.halts (single w next a state).1 with
    | true =>
      rw [sequence_cons_of_halts halts]
      exact keeps_passAll passed jobs (keeps a hs)
    | false =>
      rw [sequence_cons_of_goesOn halts]
      exact ih (keeps a hs)

/-- The first jobs are done, and what comes of each is settled by how many were done before it.
The others are skipped. -/
theorem settled_sequence (P : Nat → β → Prop) (count : σ → Nat)
    (settled : ∀ a state, P (count state) (single w next a state).1 ∧
      count (single w next a state).2 = count state + 1)
    (passed : ∀ a state, count (w.passOver a state) = count state) {n : Nat} {b : β}
    (h : (sequence w next jobs state).1[n]? = some b) :
    count state + n < count (sequence w next jobs state).2 ∧ P (count state + n) b ∨
    count (sequence w next jobs state).2 ≤ count state + n ∧ ∃ a, b = w.skip a := by
  induction jobs generalizing state n with
  | nil => cases h
  | cons a jobs ih =>
    obtain ⟨first, counted⟩ := settled a state
    cases halts : w.halts (single w next a state).1 with
    | true =>
      rw [sequence_cons_of_halts halts] at h ⊢
      dsimp only at h ⊢
      have skipped : count (passAll w jobs (single w next a state).2) = count state + 1 :=
        keeps_passAll (I := (count · = count state + 1)) (fun a _ same => (passed a _).trans same)
          jobs counted
      rw [skipped]
      cases n with
      | zero =>
        cases h
        exact .inl ⟨Nat.lt_succ_self _, first⟩
      | succ n =>
        rw [List.getElem?_cons_succ, List.getElem?_map] at h
        obtain ⟨skipped, -, rfl⟩ := Option.map_eq_some_iff.1 h
        exact .inr ⟨by omega, skipped, rfl⟩
    | false =>
      rw [sequence_cons_of_goesOn halts] at h ⊢
      cases n with
      | zero =>
        cases h
        have grows (a : α) {s : σ} (le : count state < count s) :
            count state < count (single w next a s).2 := by
          rw [(settled a s).2]
          exact Nat.lt_succ_of_lt le
        have still (a : α) {s : σ} (le : count state < count s) :
            count state < count (w.passOver a s) := by rwa [passed]
        exact .inl ⟨keeps_sequence grows still jobs (by omega), first⟩
      | succ n =>
        have rest := ih h
        rwa [counted, Nat.add_assoc, Nat.add_comm 1] at rest

section Log

variable {mark : α → γ} (log : σ → List γ)
  (logged : ∀ a state, log (single w next a state).2 = log state ++ [mark a])
  (passed : ∀ a state, log (w.passOver a state) = log state)

include logged

/-- Patient work asks for every job. -/
theorem log_sequence_patient (jobs : List α) (state : σ) :
    log (sequence w.patient next jobs state).2 = log state ++ jobs.map mark := by
  induction jobs generalizing state with
  | nil => exact (List.append_nil _).symm
  | cons a jobs ih => rw [sequence_patient_cons, ih, logged, List.append_assoc]; rfl

include passed

/-- Up to the first result that halts the work the results are those of patient work. The jobs
behind it are skipped, and nobody asks for them. -/
theorem sequence_of_first {before after : List β} {b : β}
    (patient : (sequence w.patient next jobs state).1 = before ++ b :: after)
    (goesOn : ∀ b ∈ before, w.halts b = false) (halts : w.halts b = true) :
    (sequence w next jobs state).1 =
      before ++ b :: (jobs.drop (before.length + 1)).map w.skip ∧
    log (sequence w next jobs state).2 =
      log state ++ (jobs.take (before.length + 1)).map mark := by
  induction jobs generalizing before state with
  | nil => cases before <;> cases patient
  | cons a jobs ih =>
    rw [sequence_patient_cons] at patient
    cases before with
    | nil =>
      obtain ⟨rfl, -⟩ := List.cons.inj patient
      rw [sequence_cons_of_halts halts]
      refine ⟨rfl, ?_⟩
      exact keeps_passAll (I := (log · = log state ++ [mark a]))
        (fun a _ same => (passed a _).trans same) jobs (logged a state)
    | cons earlier before =>
      obtain ⟨rfl, rest⟩ := List.cons.inj patient
      obtain ⟨first, others⟩ := List.forall_mem_cons.1 goesOn
      rw [sequence_cons_of_goesOn first]
      obtain ⟨results, asked⟩ := ih rest others
      refine ⟨congrArg (_ :: ·) results, asked.trans ?_⟩
      rw [logged, List.append_assoc]
      rfl

end Log

end FanOut

end AssetWatch
