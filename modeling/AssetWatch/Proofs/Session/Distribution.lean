import AssetWatch.Proofs.Session.Planning

/-!
# Planning part by part

Categories that are planned together are planned as if the lists they are put together from were
planned one by one: the processes of one part stand behind those of the other, and a batch takes
both parts at once. Of what cannot be planned the first is reported, whichever part it is in.
-/

namespace AssetWatch

open Host (Tree Place)

namespace Targets

variable {tree : Tree} {cwd : Place} {root folder : Path} {targets : Targets} {name : String}
  {names xs ys : List String} {error : DiscoveryError}

inductive Blames (tree : Tree) (cwd : Place) (root : Path) (targets : Targets) (name : String) :
    DiscoveryError → Prop
  | unknown (h : targets.entrypointFolders.get? name = none) :
      Blames tree cwd root targets name (.unknownCategory name)
  | folder {folder : Path} {error : DiscoveryError}
      (configured : targets.entrypointFolders.get? name = some folder)
      (h : discover tree cwd root name folder = .error error) :
      Blames tree cwd root targets name error

theorem discoverAll_singleton_eq_error_iff :
    discoverAll tree cwd root targets [name] = .error error ↔
      Blames tree cwd root targets name error := by
  cases configured : targets.entrypointFolders.get? name with
  | none =>
    simp only [discoverAll, configured, Except.error.injEq]
    refine ⟨fun same => same ▸ .unknown configured, fun blames => ?_⟩
    cases blames with
    | unknown => rfl
    | folder known => cases configured.symm.trans known
  | some folder =>
    rw [discoverAll_singleton configured]
    refine ⟨.folder configured, fun blames => ?_⟩
    cases blames with
    | unknown unconfigured => cases configured.symm.trans unconfigured
    | folder known h =>
      cases configured.symm.trans known
      exact h

/-- Lists of categories are discovered one behind the other. -/
theorem discoverAll_append : discoverAll tree cwd root targets (xs ++ ys) =
    match discoverAll tree cwd root targets xs with
    | .error error => .error error
    | .ok first => (discoverAll tree cwd root targets ys).map (first ++ ·) := by
  induction xs with
  | nil =>
    rw [List.nil_append]
    cases discoverAll tree cwd root targets ys <;> rfl
  | cons name xs ih =>
    rw [List.cons_append]
    cases alone : discoverAll tree cwd root targets [name] with
    | error error => rw [discoverAll_cons_of_error alone, discoverAll_cons_of_error alone]
    | ok found =>
      rw [discoverAll_cons_of_ok alone, discoverAll_cons_of_ok alone, ih]
      cases discoverAll tree cwd root targets xs with
      | error error => rfl
      | ok first =>
        cases discoverAll tree cwd root targets ys with
        | error error => rfl
        | ok second => exact congrArg Except.ok (List.append_assoc found first second).symm

theorem discoverAll_append_eq_ok_iff {all : List Entrypoint} :
    discoverAll tree cwd root targets (xs ++ ys) = .ok all ↔ ∃ first second,
      discoverAll tree cwd root targets xs = .ok first ∧
      discoverAll tree cwd root targets ys = .ok second ∧ all = first ++ second := by
  rw [discoverAll_append]
  cases discoverAll tree cwd root targets xs <;> cases discoverAll tree cwd root targets ys <;>
    simp [Except.map, eq_comm]

theorem canDiscover_iff : CanDiscover tree cwd root targets name ↔
    ∀ error, ¬Blames tree cwd root targets name error := by
  simp only [CanDiscover, ← discoverAll_singleton_eq_error_iff]
  cases discoverAll tree cwd root targets [name] <;> simp

/-- The first category with which something is wrong decides the error. -/
theorem discoverAll_eq_error_iff : discoverAll tree cwd root targets names = .error error ↔
    ∃ before name after, names = before ++ name :: after ∧
      (∀ earlier ∈ before, ∀ e, ¬Blames tree cwd root targets earlier e) ∧
      Blames tree cwd root targets name error := by
  simp only [← canDiscover_iff]
  constructor
  · intro h
    have some : ¬∀ name ∈ names, CanDiscover tree cwd root targets name := fun all => by
      obtain ⟨found, discovered, -⟩ := exists_discoverAll all
      cases h.symm.trans discovered
    obtain ⟨before, name, after, first, rfl, fine, blamed, fails⟩ :=
      exists_first_error (by simpa only [Classical.not_forall, exists_prop] using some)
    cases h.symm.trans fails
    exact ⟨before, name, after, rfl, fine, discoverAll_singleton_eq_error_iff.1 blamed⟩
  · rintro ⟨before, name, after, rfl, fine, blamed⟩
    obtain ⟨found, discovered, -⟩ := exists_discoverAll fine
    rw [discoverAll_append, discovered,
      discoverAll_cons_of_error (discoverAll_singleton_eq_error_iff.2 blamed)]
    rfl

end Targets

/-! ## Plans of two parts -/

/-- The plan of two parts that were planned for one command: the processes of both, or, where one
process does everything, the one that does the work of both. -/
def Plan.append (program : String) (first second : Plan) : Plan :=
  { first with
    invocations := match first.strategy with
      | .parallelCompilation | .singleExecution => first.invocations ++ second.invocations
      | .singleBatchedExecution =>
        let entrypoints := first.entrypoints ++ second.entrypoints
        let args := first.arguments ++ second.arguments
        if entrypoints = [] then [] else [{ program, args, entrypoints }] }

private theorem Workload.arguments_batched (w : Workload) :
    (w.plan .singleBatchedExecution).arguments = w.entrypoints.map (·.path.text) := by
  rw [Plan.arguments, plan]
  by_cases none : w.entrypoints = []
  · rw [invocations_batched_of_nil w none, none]
    rfl
  · rw [invocations_batched_of_ne_nil w none, List.flatMap_singleton]
    rfl

/-- The plan for more entrypoints is put together from the plans for the parts. -/
theorem Workload.plan_append {program : String} {env : Environment} {template : List ArgToken}
    (kind : StrategyKind) (first second : List Entrypoint) :
    Workload.plan ⟨program, env, first ++ second, template⟩ kind =
      (Workload.plan ⟨program, env, first, template⟩ kind).append program
        (Workload.plan ⟨program, env, second, template⟩ kind) := by
  cases kind with
  | parallelCompilation | singleExecution =>
    exact congrArg (Plan.mk _ _ _) List.map_append
  | singleBatchedExecution =>
    unfold Plan.append
    rw [entrypoints_plan, entrypoints_plan, arguments_batched, arguments_batched]
    refine congrArg (Plan.mk _ _ _) ?_
    dsimp only [plan]
    rw [← List.map_append, ← List.map_append]
    by_cases none : first ++ second = []
    · rw [invocations_batched_of_nil _ none, none]
      rfl
    · rw [invocations_batched_of_ne_nil _ none, if_neg (mt List.map_eq_nil_iff.1 none)]
      rfl

namespace Config

variable {c : Config} {tree : Tree} {cwd : Place} {root : Path} {env : Environment}
  {names xs ys : List String} {program : String}

theorem plan_append_eq_ok_iff {both : Plan} (command : c.strategy.commandFor env = .ok program) :
    c.plan tree cwd root env (xs ++ ys) = .ok both ↔ ∃ first second,
      c.plan tree cwd root env xs = .ok first ∧ c.plan tree cwd root env ys = .ok second ∧
        both = first.append program second := by
  simp only [plan_of_command command, Targets.discoverAll_append]
  cases Targets.discoverAll tree cwd root c.targets xs with
  | error error => simp
  | ok found =>
    cases Targets.discoverAll tree cwd root c.targets ys with
    | error error => simp [Except.map]
    | ok more =>
      simp only [Except.map, Except.ok.injEq, Workload.plan_append]
      constructor
      · rintro rfl
        exact ⟨_, _, rfl, rfl, rfl⟩
      · rintro ⟨_, _, rfl, rfl, rfl⟩
        rfl

/-- With a command, only what is wrong with a category keeps a build from being planned. -/
theorem plan_eq_error_iff {error : BuildError} (command : c.strategy.commandFor env = .ok program) :
    c.plan tree cwd root env names = .error error ↔ ∃ e,
      Targets.discoverAll tree cwd root c.targets names = .error e ∧ error = .discovery e := by
  rw [plan_of_command command]
  cases Targets.discoverAll tree cwd root c.targets names <;> simp [eq_comm]

end Config

namespace Session

variable {σ : Type}

/-- Of two lists of categories that are planned at once the entrypoints and the processes are those
of the first and then those of the second, and the first category with which something is wrong
decides the error; but an environment without a command is reported before any of them. The
entrypoints of a plan are those that are discovered. -/
theorem planning_distributes (s : Session) (x : Executor σ) (state : σ) (c : Config)
    (xs ys : List String) :
    let discovers := Targets.discoverAll (x.tree state) x.cwd s.root c.targets
    let blames := Targets.Blames (x.tree state) x.cwd s.root c.targets
    let plans names := (s.plan x state names).under c
    (∀ all, discovers (xs ++ ys) = .ok all ↔ ∃ first second,
      discovers xs = .ok first ∧ discovers ys = .ok second ∧ all = first ++ second) ∧
    (∀ error, discovers (xs ++ ys) = .error error ↔ ∃ before name after,
      xs ++ ys = before ++ name :: after ∧ (∀ earlier ∈ before, ∀ e, ¬blames earlier e) ∧
        blames name error) ∧
    (∀ program, c.strategy.commandFor s.environment = .ok program →
      (∀ both, plans (xs ++ ys) = .ok both ↔ ∃ first second,
        plans xs = .ok first ∧ plans ys = .ok second ∧ both = first.append program second) ∧
      ∀ error, plans (xs ++ ys) = .error error ↔
        ∃ e, discovers (xs ++ ys) = .error e ∧ error = .discovery e) ∧
    (∀ names p, plans names = .ok p → ∃ found, discovers names = .ok found ∧
      p.entrypoints = found.map (·.path)) ∧
    ∀ error, c.strategy.commandFor s.environment = .error error →
      ∀ names, plans names = .error (.environment error) := by
  intro discovers blames plans
  refine ⟨fun _ => Targets.discoverAll_append_eq_ok_iff, fun _ => Targets.discoverAll_eq_error_iff,
    fun program command => ?_, fun _ _ => Config.exists_discovered_of_plan,
    fun error noCommand names => Config.plan_of_noCommand noCommand⟩
  exact ⟨fun _ => Config.plan_append_eq_ok_iff command, fun _ => Config.plan_eq_error_iff command⟩

/-- Scripts, and then styles and scripts again, are given to one process; a category without a
folder is reported, and an environment without a command before it. -/
theorem planning_distributes_batched :
    let c := Config.ofCategories ["css", "js"]
    let s := ofCategories ["css", "js"]
    let state := (Tree.ofFolders ["css", "js"], [])
    let plans names := (s.plan .noting state names).under c
    let live : Session := { s with environment := ⟨"live"⟩ }
    (c.strategy.commandFor s.environment = .ok "bundle" ∧ ∃ first second,
      plans ["js"] = .ok first ∧ plans ["css", "js"] = .ok second ∧
        plans (["js"] ++ ["css", "js"]) = .ok (first.append "bundle" second) ∧
        ∃ found, Targets.discoverAll (.ofFolders ["css", "js"]) [] ⟨"/p"⟩ c.targets ["js"] =
          .ok found ∧ first.entrypoints = found.map (·.path)) ∧
    plans (["js"] ++ ["fonts", "css"]) = .error (.discovery (.unknownCategory "fonts")) ∧
    c.strategy.commandFor live.environment = .error ⟨"live", ["test"]⟩ ∧
      (live.plan .noting state ["fonts"]).under c = .error (.environment ⟨"live", ["test"]⟩) := by
  intro c s state plans live
  have command : c.strategy.commandFor s.environment = .ok "bundle" := rfl
  have noCommand : c.strategy.commandFor live.environment = .error ⟨"live", ["test"]⟩ := rfl
  obtain ⟨-, -, planned, discovered, -⟩ :=
    planning_distributes s .noting state c ["js"] ["css", "js"]
  obtain ⟨-, decides, unplanned, -⟩ := planning_distributes s .noting state c ["js"] ["fonts", "css"]
  obtain ⟨-, -, -, -, refused⟩ := planning_distributes live .noting state c [] []
  have succeeds : (plans (["js"] ++ ["css", "js"])).toOption.isSome = true := by decide +kernel
  obtain ⟨both, together⟩ := exists_of_isSome succeeds
  obtain ⟨first, second, alone, behind, rfl⟩ := ((planned _ command).1 both).1 together
  have fine : Targets.CanDiscover (Tree.ofFolders ["css", "js"]) [] ⟨"/p"⟩ c.targets "js" := by
    refine exists_of_isSome (e := Targets.discoverAll _ _ _ _ _) ?_
    decide +kernel
  have unknown := (decides (.unknownCategory "fonts")).2 ⟨["js"], "fonts", ["css"], rfl,
    List.forall_mem_singleton.2 (Targets.canDiscover_iff.1 fine), .unknown rfl⟩
  exact ⟨⟨command, first, second, alone, behind, together, discovered _ _ alone⟩,
    ((unplanned _ command).2 _).2 ⟨_, unknown, rfl⟩, noCommand, refused _ noCommand _⟩

end Session

end AssetWatch
