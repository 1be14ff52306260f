import AssetWatch.Proofs.Session.Planning

/-!
# Replacing the configuration during a call

A call looks at the configuration in force when it asks for the categories, when it plans, and
once more for the limits of the processes. Others may replace the configuration between any two
of its looks. What such a call comes to can be told from the configurations its looks find, and
one of them accounts for all of it only if it gives the plan and the limits that were found.
-/

namespace AssetWatch

namespace Reading

variable {α β : Type}

/-- A call of a reading when some configuration is in force: what its looks find, what is in
force one after another until it ends, and its result. -/
inductive Call : Reading α → Config → (found held : List Config) → α → Prop
  | done (a : α) (c : Config) : Call (.done a) c [] [c] a
  | look {next : Config → Reading α} {c : Config} {found held : List Config} {a : α} :
      Call (next c) c found held a → Call (.read next) c (c :: found) held a
  | replace {r : Reading α} {c' : Config} {found held : List Config} {a : α} (c : Config) :
      Call r c' found held a → Call r c found (c :: held) a

def replacedAfterFirst (c c' : Config) : Nat → Config
  | 0 => c
  | _ + 1 => c'

/-- One configuration that was in force gives the result by itself. -/
def IsSnapshot (r : Reading α) (held : List Config) (a : α) : Prop :=
  ∃ c ∈ held, a = r.under c

namespace Call

variable {r : Reading α} {c : Config} {found held : List Config} {a : α}

/-- A reading can be called while nothing replaces the configuration. -/
theorem alone (r : Reading α) (c : Config) : ∃ found, Call r c found [c] (r.under c) := by
  induction r with
  | done a => exact ⟨[], .done a c⟩
  | read next ih =>
    obtain ⟨found, h⟩ := ih c
    exact ⟨c :: found, .look h⟩

private theorem of_done {b : α} (h : Call (.done b) c found held a) : found = [] ∧ a = b := by
  generalize hr : Reading.done b = r at h
  induction h with
  | done => cases hr; exact ⟨rfl, rfl⟩
  | look => cases hr
  | replace _ _ ih => exact ih hr

private theorem of_read {next : Config → Reading α} (h : Call (.read next) c found held a) :
    ∃ d rest later, found = d :: rest ∧ Call (next d) d rest later a := by
  generalize hr : Reading.read next = r at h
  induction h with
  | done => cases hr
  | look h => cases hr; exact ⟨_, _, _, rfl, h⟩
  | replace _ _ ih => exact ih hr

private theorem of_map {f : α → β} {b : β} (h : Call (r.map f) c found held b) :
    ∃ a, Call r c found held a ∧ b = f a := by
  generalize hm : r.map f = m at h
  induction h generalizing r with
  | done b c =>
    cases r with
    | done a => cases hm; exact ⟨a, .done a c, rfl⟩
    | read => cases hm
  | look _ ih =>
    cases r with
    | done => cases hm
    | read next =>
      cases hm
      obtain ⟨a, h, hb⟩ := ih rfl
      exact ⟨a, .look h, hb⟩
  | replace c _ ih =>
    obtain ⟨a, h, hb⟩ := ih hm
    exact ⟨a, .replace c h, hb⟩

theorem replacedAfterFirst (r : Reading α) (c c' : Config) :
    ∃ found, Call r c found [c, c'] (r.seeing (Reading.replacedAfterFirst c c')) := by
  cases r with
  | done a => exact ⟨[], .replace c (.done a c')⟩
  | read next =>
    obtain ⟨found, h⟩ := alone (next c) c'
    exact ⟨c :: found, .look (.replace c h)⟩

end Call

/-- A call that neither of two configurations accounts for. -/
theorem exists_call_not_isSnapshot {r : Reading α} {c e : Config}
    (hc : r.seeing (replacedAfterFirst c e) ≠ r.under c)
    (he : r.seeing (replacedAfterFirst c e) ≠ r.under e) :
    ∃ found held a, Call r c found held a ∧ ¬IsSnapshot r held a := by
  obtain ⟨found, hcall⟩ := Call.replacedAfterFirst r c e
  refine ⟨found, _, _, hcall, ?_⟩
  rintro ⟨d, hd, heq⟩
  simp only [List.mem_cons, List.not_mem_nil, or_false] at hd
  rcases hd with rfl | rfl
  · exact hc heq
  · exact he heq

theorem IsSnapshot.map {r : Reading α} {held : List Config} {a : α} (f : α → β)
    (h : IsSnapshot r held a) : IsSnapshot (r.map f) held (f a) := by
  obtain ⟨c, hc, rfl⟩ := h
  exact ⟨c, hc, (Reading.under_map f r c).symm⟩

end Reading

namespace Session

open Host (Tree)
open Reading (Call IsSnapshot)

variable {σ : Type}

def prepareAll (s : Session) (x : Executor σ) (state : σ) : Reading (Except BuildError Build) :=
  .read fun c => s.prepare x state c.categories

def runPrepared (s : Session) (x : Executor σ) (l : Ledger σ) :
    Except BuildError Build → Except BuildError Report × Ledger σ
  | .error e => (.error e, l)
  | .ok b =>
    let (report, l) := s.run x b l
    (.ok report, l)

private theorem build_eq_map (s : Session) (x : Executor σ) (names : List String) (l : Ledger σ) :
    s.build x names l = (s.prepare x l.state names).map (s.runPrepared x l) := rfl

private theorem buildAll_eq_map (s : Session) (x : Executor σ) (l : Ledger σ) :
    s.buildAll x l = (s.prepareAll x l.state).map (s.runPrepared x l) := rfl

/-- One configuration gives the plan that was made, and its limits if there is a plan. -/
structure Accounts (s : Session) (x : Executor σ) (state : σ) (e : Config) (names : List String)
    (planned : Except BuildError Plan) (limits : ExecutionLimits) : Prop where
  plan : (s.plan x state names).under e = planned
  limits : ∀ p, planned = .ok p → e.execution = limits

section Calls

variable {s : Session} {x : Executor σ} {state : σ} {c e : Config} {names : List String}
  {found held : List Config}

theorem eq_prepare_under_iff {planned : Except BuildError Plan} {limits : ExecutionLimits} :
    (planned.map fun p => (⟨p, limits⟩ : Build)) = (s.prepare x state names).under e ↔
      s.Accounts x state e names planned limits := by
  rw [prepare_under]
  constructor
  · intro h
    cases planned with
    | error error =>
      cases hp : (s.plan x state names).under e with
      | error error' =>
        rw [hp] at h
        cases h
        exact ⟨hp, by simp⟩
      | ok p => rw [hp] at h; cases h
    | ok p =>
      cases hp : (s.plan x state names).under e with
      | error error => rw [hp] at h; cases h
      | ok p' =>
        rw [hp] at h
        injection h with h
        injection h with hplan hlimits
        exact ⟨by rw [hp, hplan], fun _ _ => hlimits.symm⟩
  · rintro ⟨hplan, hlimits⟩
    rw [hplan]
    cases planned with
    | error error => rfl
    | ok p => rw [hlimits p rfl]

/-- A plan is made from the first look, and the limits come from the last. -/
theorem prepare_call {result : Except BuildError Build}
    (h : Call (s.prepare x state names) c found held result) :
    ∃ a b, found.head? = some a ∧ found.getLast? = some b ∧
      result = ((s.plan x state names).under a).map fun p => ⟨p, b.execution⟩ := by
  rw [prepare_eq] at h
  obtain ⟨a, rest, later, rfl, hplan⟩ := h.of_read
  cases hp : (s.plan x state names).under a with
  | error error =>
    rw [hp] at hplan
    obtain ⟨rfl, rfl⟩ := hplan.of_done
    exact ⟨a, a, rfl, rfl, by rw [hp]; rfl⟩
  | ok p =>
    rw [hp] at hplan
    obtain ⟨b, rest, later, rfl, hlimits⟩ := hplan.of_read
    obtain ⟨rfl, rfl⟩ := hlimits.of_done
    exact ⟨a, b, rfl, rfl, by rw [hp]; rfl⟩

theorem prepare_isSnapshot_iff {result : Except BuildError Build}
    (h : Call (s.prepare x state names) c found held result) :
    ∃ a b, found.head? = some a ∧ found.getLast? = some b ∧
      (IsSnapshot (s.prepare x state names) held result ↔
        ∃ e ∈ held, s.Accounts x state e names ((s.plan x state names).under a) b.execution) := by
  obtain ⟨a, b, ha, hb, rfl⟩ := prepare_call h
  exact ⟨a, b, ha, hb, by simp only [IsSnapshot, eq_prepare_under_iff]⟩

/-- The categories come from the first look and the plan from the second. -/
theorem prepareAll_isSnapshot_iff {result : Except BuildError Build}
    (h : Call (s.prepareAll x state) c found held result) :
    ∃ a b d rest, found = a :: b :: rest ∧ found.getLast? = some d ∧
      (IsSnapshot (s.prepareAll x state) held result ↔
        ∃ e ∈ held, s.Accounts x state e e.categories ((s.plan x state a.categories).under b)
          d.execution) := by
  obtain ⟨a, rest, later, rfl, hprepare⟩ := h.of_read
  obtain ⟨b, d, hb, hd, rfl⟩ := prepare_call hprepare
  obtain ⟨rest, rfl⟩ := List.head?_eq_some_iff.1 hb
  refine ⟨a, b, d, rest, rfl, by simpa using hd, ?_⟩
  simp only [IsSnapshot, ← eq_prepare_under_iff]
  rfl

theorem planAll_isSnapshot_iff {result : Except BuildError Plan}
    (h : Call (s.planAll x state) c found held result) :
    ∃ a b, found = [a, b] ∧
      (IsSnapshot (s.planAll x state) held result ↔
        ∃ e ∈ held, (s.plan x state e.categories).under e =
          (s.plan x state a.categories).under b) := by
  obtain ⟨a, rest, later, rfl, hplan⟩ := h.of_read
  obtain ⟨b, rest, later, rfl, hdone⟩ := hplan.of_read
  obtain ⟨rfl, rfl⟩ := hdone.of_done
  refine ⟨a, b, rfl, exists_congr fun e => and_congr_right fun _ => ?_⟩
  exact eq_comm

end Calls

/-- One configuration that was in force accounts for a call exactly if it gives by itself the
plan that was made and the limits that were found. What is run is what was prepared. -/
theorem call_isSnapshot_iff (s : Session) (x : Executor σ) (l : Ledger σ) (c : Config)
    (found held : List Config) :
    (∀ result, Call (s.planAll x l.state) c found held result →
      ∃ a b, found = [a, b] ∧
        (IsSnapshot (s.planAll x l.state) held result ↔
          ∃ e ∈ held, (s.plan x l.state e.categories).under e =
            (s.plan x l.state a.categories).under b)) ∧
    (∀ names out, Call (s.build x names l) c found held out →
      ∃ a b prepared, found.head? = some a ∧ found.getLast? = some b ∧
        out = s.runPrepared x l prepared ∧
        (IsSnapshot (s.prepare x l.state names) held prepared ↔
          ∃ e ∈ held, s.Accounts x l.state e names ((s.plan x l.state names).under a)
            b.execution) ∧
        (IsSnapshot (s.prepare x l.state names) held prepared →
          IsSnapshot (s.build x names l) held out)) ∧
    ∀ out, Call (s.buildAll x l) c found held out →
      ∃ a b d rest prepared, found = a :: b :: rest ∧ found.getLast? = some d ∧
        out = s.runPrepared x l prepared ∧
        (IsSnapshot (s.prepareAll x l.state) held prepared ↔
          ∃ e ∈ held, s.Accounts x l.state e e.categories
            ((s.plan x l.state a.categories).under b) d.execution) ∧
        (IsSnapshot (s.prepareAll x l.state) held prepared →
          IsSnapshot (s.buildAll x l) held out) := by
  refine ⟨fun _ => planAll_isSnapshot_iff, fun names out h => ?_, fun out h => ?_⟩
  · rw [build_eq_map] at h
    obtain ⟨prepared, hprepare, rfl⟩ := h.of_map
    obtain ⟨a, b, ha, hb, hiff⟩ := prepare_isSnapshot_iff hprepare
    exact ⟨a, b, prepared, ha, hb, rfl, hiff, fun hs => hs.map _⟩
  · rw [buildAll_eq_map] at h
    obtain ⟨prepared, hprepare, rfl⟩ := h.of_map
    obtain ⟨a, b, d, rest, hfound, hd, hiff⟩ := prepareAll_isSnapshot_iff hprepare
    exact ⟨a, b, d, rest, prepared, hfound, hd, rfl, hiff, fun hs => hs.map _⟩

def siteFiles : Ledger (Tree × List String) := ⟨(.ofFolders ["css", "js"], []), {}⟩

theorem call_isSnapshot_iff_replaced : ∃ found held result,
    Call ((Session.ofCategories ["js"]).planAll .noting siteFiles.state)
      (.ofCategories ["js"]) found held result ∧
    ∃ a b, found = [a, b] ∧
      (IsSnapshot ((Session.ofCategories ["js"]).planAll .noting siteFiles.state) held result ↔
        ∃ e ∈ held, ((Session.ofCategories ["js"]).plan .noting siteFiles.state
            e.categories).under e =
          ((Session.ofCategories ["js"]).plan .noting siteFiles.state a.categories).under b) := by
  obtain ⟨found, h⟩ := Call.replacedAfterFirst
    ((Session.ofCategories ["js"]).planAll .noting siteFiles.state) (.ofCategories ["js"])
    (.ofCategories ["css"])
  exact ⟨found, _, _, h, (call_isSnapshot_iff _ _ siteFiles _ _ _).1 _ h⟩

def lenient : Config where
  targets := (Config.ofCategories ["css", "js"]).targets
  strategy := { kind := .singleExecution, commands := .ofList [("test", "bundle")] }

def strict : Config where
  targets := (Config.ofCategories ["css", "js"]).targets
  strategy := { kind := .singleExecution, commands := .ofList [("test", "pack")] }
  execution := { failFast := true }

/-- Scripts are asked for when only styles are configured any more; and a process is skipped
that would be started, or would be another, under either configuration. -/
theorem replaced_call_not_isSnapshot :
    (∃ found held result,
      Call ((Session.ofCategories ["js"]).planAll .noting siteFiles.state)
        (.ofCategories ["js"]) found held result ∧
      ¬IsSnapshot ((Session.ofCategories ["js"]).planAll .noting siteFiles.state) held result) ∧
    (∃ found held out,
      Call ((Session.ofCategories ["js"]).build .noting ["css", "js"] siteFiles)
        lenient found held out ∧
      ¬IsSnapshot ((Session.ofCategories ["js"]).build .noting ["css", "js"] siteFiles) held out) ∧
    ∃ found held out,
      Call ((Session.ofCategories ["js"]).buildAll .noting siteFiles)
        (.ofCategories ["js"]) found held out ∧
      ¬IsSnapshot ((Session.ofCategories ["js"]).buildAll .noting siteFiles) held out := by
  refine ⟨?_, ?_, ?_⟩
  · exact Reading.exists_call_not_isSnapshot (e := .ofCategories ["css"])
      (ne_of_apply_ne (·.toOption.isSome) (by decide +kernel))
      (ne_of_apply_ne (·.toOption.isSome) (by decide +kernel))
  · exact Reading.exists_call_not_isSnapshot (e := strict)
      (ne_of_apply_ne (·.2.state.2) (by decide +kernel))
      (ne_of_apply_ne (·.2.state.2) (by decide +kernel))
  · exact Reading.exists_call_not_isSnapshot (e := .ofCategories ["css"])
      (ne_of_apply_ne (·.1.toOption.isSome) (by decide +kernel))
      (ne_of_apply_ne (·.1.toOption.isSome) (by decide +kernel))

end Session

end AssetWatch
