import AssetWatch.Proofs.Host.Programs
import AssetWatch.Proofs.Path.Joins
import AssetWatch.Proofs.Run.Slots

/-!
# Where programs are taken from

A program that is given with a separator is taken from the project's root, unless it is a path from
the top; a bare name is searched for. Components are counted where the rule speaks of separators, so
the rule is followed on all spellings but those that only pad a single component, and these ask for a
directory: no process is started for them.
-/

namespace AssetWatch

/-! ## The rule -/

/-- Which program is meant: relative paths are seen from the root. -/
def programByRule (root : Path) (program : String) : Path :=
  let path : Path := ⟨program⟩
  if path.isAbsolute then path
  else if '/' ∈ path.chars then root.join path
  else path

section Rule

variable {root : Path} {program : String}

private theorem programByRule_of_isPlaced (placed : (⟨program⟩ : Path).IsPlaced) :
    programByRule root program = ⟨program⟩ := by
  rcases placed with absolute | bare
  · exact if_pos absolute
  · simp only [programByRule, bare, if_false, ite_self]

private theorem isPlaced_programByRule (rooted : root.isAbsolute = true) (program : String) :
    (programByRule root program).IsPlaced := by
  by_cases placed : (⟨program⟩ : Path).IsPlaced
  · rwa [programByRule_of_isPlaced placed]
  · obtain ⟨relative, separated⟩ := not_or.1 placed
    rw [programByRule, if_neg relative, if_pos (not_not.1 separated)]
    exact .inl (Path.isAbsolute_join rooted)

/-- A relative path is taken as it is where it has one component, however that is spelled. -/
theorem resolveProgram_of_relative (relative : (⟨program⟩ : Path).isAbsolute = false) :
    resolveProgram root program =
      if '/' ∉ program.toList ∨ (⟨program⟩ : Path).IsPadded then ⟨program⟩
      else root.join ⟨program⟩ := by
  have counted : (⟨program⟩ : Path).components.length ≤ 1 ↔
      '/' ∉ program.toList ∨ (⟨program⟩ : Path).IsPadded := Path.length_components_le_one_iff relative
  simp only [resolveProgram, relative, Bool.not_false, Bool.true_and, decide_eq_true_eq, ← counted,
    ← Nat.not_le, ite_not]

private theorem resolveProgram_of_isPlaced (placed : (⟨program⟩ : Path).IsPlaced) :
    resolveProgram root program = ⟨program⟩ := by
  cases absolute : (⟨program⟩ : Path).isAbsolute with
  | true => simp [resolveProgram, absolute]
  | false =>
    have bare := placed.resolve_left (by simp [absolute])
    rw [resolveProgram_of_relative absolute, if_pos (.inl bare)]

/-- Only padded spellings are taken as they are where the rule has it otherwise. -/
theorem resolveProgram_eq (root : Path) (program : String) : resolveProgram root program =
    if (⟨program⟩ : Path).IsPadded then ⟨program⟩ else programByRule root program := by
  by_cases placed : (⟨program⟩ : Path).IsPlaced
  · have plain : ¬(⟨program⟩ : Path).IsPadded := fun padded => padded.not_isPlaced placed
    rw [if_neg plain, resolveProgram_of_isPlaced placed, programByRule_of_isPlaced placed]
  · obtain ⟨relative, separated⟩ := not_or.1 placed
    rw [resolveProgram_of_relative (Bool.not_eq_true _ ▸ relative), programByRule, if_neg relative,
      if_pos (not_not.1 separated)]
    exact if_congr (or_iff_right separated) rfl rfl

private theorem resolveProgram_of_isPadded (padded : (⟨program⟩ : Path).IsPadded) :
    resolveProgram root program = ⟨program⟩ := by
  rw [resolveProgram_eq, if_pos padded]

private theorem mem_chars_resolveProgram (rooted : root.isAbsolute = true)
    (h : '/' ∈ program.toList) :
    '/' ∈ (resolveProgram root program).chars := by
  rw [resolveProgram]
  split
  · exact Path.mem_chars_of_isAbsolute (Path.isAbsolute_join rooted)
  · exact h

theorem isPlaced_resolveProgram_iff (rooted : root.isAbsolute = true) :
    (resolveProgram root program).IsPlaced ↔ ¬(⟨program⟩ : Path).IsPadded := by
  rw [resolveProgram_eq]
  split
  · rename_i padded
    exact iff_of_false padded.not_isPlaced (not_not.2 padded)
  · rename_i plain
    exact iff_of_true (isPlaced_programByRule rooted program) plain

theorem resolveProgram_eq_programByRule_iff (rooted : root.isAbsolute = true) :
    resolveProgram root program = programByRule root program ↔ ¬(⟨program⟩ : Path).IsPadded := by
  refine ⟨fun same => ?_, fun plain => by rw [resolveProgram_eq, if_neg plain]⟩
  rw [← isPlaced_resolveProgram_iff rooted, same]
  exact isPlaced_programByRule rooted program

end Rule

/-! ## What a run asks for -/

namespace FanOut

variable {α ι β γ σ : Type} {w : Work α ι β σ} {ends : Endings ι β σ} {f g : FanOut α ι β}
  {state state' : σ} {jobs : List α} {mark : α → γ} {log : σ → List γ}

/-- Jobs of the list wait, and what was asked for was asked for one of them. -/
structure Among (jobs : List α) (mark : α → γ) (log : List γ) (f : FanOut α ι β) : Prop where
  waiting : ∀ job ∈ f.waiting, job.2 ∈ jobs
  asked : ∀ l ∈ log, ∃ a ∈ jobs, mark a = l

theorem Among.mono {marks : List γ} (h : Among jobs mark marks f) (fewer : g.waiting ⊆ f.waiting) :
    Among jobs mark marks g :=
  ⟨fun job hj => h.waiting job (fewer hj), h.asked⟩

private theorem waiting_settle_subset (f : FanOut α ι β) (number : Nat) (b : β) (state : σ) :
    (f.settle w number b state).1.waiting ⊆ f.waiting := by
  unfold settle
  dsimp only
  split
  · exact List.nil_subset _
  · exact List.Subset.refl _

theorem Among.next {marks : List γ} {i : Nat} {a : α} {rest : List (Nat × α)}
    (h : Among jobs mark marks f) (waits : f.waiting = (i, a) :: rest) :
    Among jobs mark (marks ++ [mark a]) { f with waiting := rest } := by
  obtain ⟨first, others⟩ := List.forall_mem_cons.1 (waits ▸ h.waiting)
  refine ⟨others, fun l hl => ?_⟩
  rcases List.mem_append.1 hl with hl | hl
  · exact h.asked l hl
  · exact ⟨a, first, (List.mem_singleton.1 hl).symm⟩

theorem Move.among (logs : w.Logs ends mark log) (h : Move w ends (f, state) (g, state'))
    (among : Among jobs mark (log state) f) :
    Among jobs mark (log state') g := by
  cases h with
  | start waits _ started =>
    rw [logs.start started]
    exact (among.next waits).mono (List.Subset.refl _)
  | refuse waits _ refused =>
    rw [log_settle logs, logs.start refused]
    exact (among.next waits).mono (waiting_settle_subset ..)
  | complete _ ended =>
    rw [log_settle logs, logs.ends ended]
    exact among.mono (waiting_settle_subset { f with running := _ } ..)

/-- All that a run asks for, it asks for one of its jobs. -/
theorem exists_job_of_asked {next : List ι → σ → (Nat × (ι → β)) × σ}
    (logs : w.Logs (next · · = ·) mark log) (fresh : log state = []) :
    ∀ l ∈ log (run w next jobs state).2, ∃ a ∈ jobs, mark a = l := by
  obtain ⟨g, moves, -⟩ := moves_run (w := w) next jobs state
  have begun : Among jobs mark (log state) (ofJobs jobs : FanOut α ι β) := by
    refine ⟨fun job hj => ?_, by simp [fresh]⟩
    obtain ⟨i, inside, rfl⟩ := List.mem_mapIdx.1 hj
    exact List.getElem_mem inside
  have ended : Among jobs mark (log (run w next jobs state).2) g :=
    Moves.preserve (P := fun s => Among jobs mark (log s.2) s.1) (fun move => move.among logs) moves
      begun
  exact ended.asked

end FanOut

namespace Runner

variable {r : Runner} {σ : Type} {p : Plan} {launch : Launch}

/-- Every process that a run of a plan asks for is one of the plan. -/
theorem exists_invocation_of_asked (m : Machine σ) {state : σ}
    (asked : launch ∈ (r.execute m.logging p (state, [])).2.2) :
    ∃ i ∈ p.invocations, launch = r.launch p.environment i := by
  have logs : (r.work m.logging p).Logs (next m.logging · · = ·) (r.launch p.environment) (·.2) :=
    logs_work.mono fun _ _ _ h => ⟨_, _, _, h.symm⟩
  obtain ⟨i, planned, same⟩ := FanOut.exists_job_of_asked logs rfl launch asked
  exact ⟨i, planned, same.symm⟩

/-! ## What is started -/

section Host

open Host

variable {env : Environment} {i : Invocation} {s : Setting} {limitMs : Option Nat} {state : State}
  {process : Nat} {t : Tree} {path? : Option String} {program : String}

private theorem not_isPadded_of_start (sound : state.tree.IsSound)
    (started : (s.start (r.launch env i) limitMs state).1 = .ok process) :
    ¬(⟨i.program⟩ : Path).IsPadded := by
  intro padded
  have same : (r.launch env i).program = ⟨i.program⟩ := resolveProgram_of_isPadded padded
  refine Setting.not_asksForDirectory_of_start sound started ?_ ?_
  · rw [same]
    exact padded.2.1
  · rw [same]
    exact padded.asksForDirectory

private theorem isInSearchPath_of_bare {root : Path} {cwd : Place} {args : List Octets}
    {found : Executable}
    (bare : '/' ∉ program.toList)
    (h : Setting.find t cwd path? (resolveProgram root program).text args = .ok found) :
    Setting.IsInSearchPath t cwd path? program args found := by
  rw [resolveProgram_of_isPlaced (.inr bare)] at h
  exact Setting.isInSearchPath_of_find bare h

private theorem leadsAlike_resolveProgram {root : Path} (rooted : root.isAbsolute = true)
    (sound : t.IsSound) (scripts : t.ScriptsFromTop)
    (fromTop : '/' ∉ program.toList → Setting.SearchesFromTop path?) :
    Setting.LeadsAlike t path? (resolveProgram root program).text := by
  by_cases padded : (⟨program⟩ : Path).IsPadded
  · rw [resolveProgram_of_isPadded padded]
    exact Setting.leadsAlike_of_asksForDirectory sound padded.2.1 padded.asksForDirectory
  · have placed := (isPlaced_resolveProgram_iff rooted).2 padded
    refine Setting.leadsAlike_of_isPlaced sound scripts (fun bare => fromTop ?_) placed
    exact mt (mem_chars_resolveProgram rooted) bare

/-- The rule is followed on every spelling that is not padded, and padded ones stay as they are. Runs
ask for nothing but the processes of their plan. Those that are started are taken from where the rule
says; and whether one is started, and which, does not depend on the current directory. -/
theorem programs_follow_rule (r : Runner) (rooted : r.root.isAbsolute = true) :
    (∀ program : String,
      (resolveProgram r.root program = programByRule r.root program ↔
        ¬(⟨program⟩ : Path).IsPadded) ∧
      ((resolveProgram r.root program).IsPlaced ↔ ¬(⟨program⟩ : Path).IsPadded) ∧
      ((⟨program⟩ : Path).IsPadded → resolveProgram r.root program = ⟨program⟩)) ∧
    (∀ (σ : Type) (m : Machine σ) (p : Plan) (state : σ),
      ∀ launch ∈ (r.execute m.logging p (state, [])).2.2,
        ∃ i ∈ p.invocations, launch = r.launch p.environment i) ∧
    (∀ (s : Setting) (env : Environment) (i : Invocation) (limitMs : Option Nat) (state : State)
      (process : Nat), state.tree.IsSound →
      (s.start (r.launch env i) limitMs state).1 = .ok process →
        (r.launch env i).program = programByRule r.root i.program ∧
        (r.launch env i).program.IsPlaced) ∧
    ∀ (t : Tree) (path? : Option String) (program : String),
      ('/' ∉ program.toList → ∀ cwd args found,
        Setting.find t cwd path? (resolveProgram r.root program).text args = .ok found →
          Setting.IsInSearchPath t cwd path? program args found) ∧
      (t.IsSound → t.ScriptsFromTop → ('/' ∉ program.toList → Setting.SearchesFromTop path?) →
        Setting.LeadsAlike t path? (resolveProgram r.root program).text) := by
  refine ⟨fun program => ⟨resolveProgram_eq_programByRule_iff rooted,
    isPlaced_resolveProgram_iff rooted, resolveProgram_of_isPadded⟩,
    fun σ m p state launch => exists_invocation_of_asked m, ?_, ?_⟩
  · intro s env i limitMs state process sound started
    have plain := not_isPadded_of_start sound started
    exact ⟨(resolveProgram_eq_programByRule_iff rooted).2 plain,
      (isPlaced_resolveProgram_iff rooted).2 plain⟩
  · intro t path? program
    exact ⟨fun bare cwd args found => isInSearchPath_of_bare bare, leadsAlike_resolveProgram rooted⟩

end Host

end Runner

def Host.Tree.withBundle : Host.Tree where
  places := [(["p"], 1), (["p", "bin"], 2), (["p", "bin", "bundle"], 3)]
  nodes := #[⟨.directory, 0o755, 0⟩, ⟨.directory, 0o755, 0⟩, ⟨.directory, 0o755, 0⟩,
    ⟨.file (Host.Executable.image "true"), 0o755, 0⟩]

namespace Host

private theorem Executable.image_true :
    image "true" = ⟨#[127, 69, 76, 70, 2, 1, 1, 116, 114, 117, 101]⟩ := by
  refine ByteArray.ext (Array.toList_inj.1 ?_)
  rw [image, Octets.toList_bytes]
  decide +kernel

private theorem Tree.scriptsFromTop_withBundle : Tree.withBundle.ScriptsFromTop := by
  intro number node content interpreter words known file script
  have listed : node ∈ Tree.withBundle.nodes := Array.mem_of_getElem? known
  have noScript : Executable.interpreter? (Executable.image "true") = none := by
    rw [Executable.image_true]
    decide +kernel
  simp only [Tree.withBundle, List.mem_toArray, List.mem_cons, List.not_mem_nil, or_false] at listed
  rcases listed with rfl | rfl | rfl | rfl
  · cases file
  · cases file
  · cases file
  · cases file
    cases noScript.symm.trans script

private theorem Setting.find_withBundle (path? : Option String) (args : List Octets) :
    find .withBundle ["p"] path? "/p/bin/bundle" args = .ok ⟨"true", args⟩ := by
  have named : Executable.utility? (Executable.image "true") = some "true" := by
    rw [Executable.image_true]
    decide +kernel
  have there : Tree.withBundle.stat ["p"] ⟨"/p/bin/bundle"⟩ =
      .ok (3, ⟨.file (Executable.image "true"), 0o755, 0⟩) := rfl
  rw [find_of_separated (by decide), Executable.find, Executable.findBy, Octets.text_ofText, there]
  simp only [Bind.bind, Except.bind]
  rw [if_neg (by decide)]
  simp only [named]
  rfl

end Host

namespace Runner

open Host

/-- The program is started from the project's root, and would be from anywhere. -/
theorem programs_follow_rule_started :
    let r : Runner := { root := ⟨"/p"⟩, limits := {} }
    let i : Invocation := { program := "bin/bundle", args := [], entrypoints := [⟨"js/app.js"⟩] }
    let s : Setting := { programs := fun _ => some fun _ _ => pure 0 }
    (s.start (r.launch ⟨"test"⟩ i) none { tree := .withBundle }).1 = .ok 101 ∧
      (r.launch ⟨"test"⟩ i).program = programByRule r.root i.program ∧
      programByRule r.root i.program = ⟨"/p/bin/bundle"⟩ ∧
      Setting.LeadsAlike .withBundle none (resolveProgram r.root i.program).text := by
  intro r i s
  obtain ⟨-, -, starts, leads⟩ := programs_follow_rule r (by decide)
  have sound : Tree.withBundle.IsSound := by decide +kernel
  have started : (s.start (r.launch ⟨"test"⟩ i) none { tree := .withBundle }).1 = .ok 101 := by
    have resolved : resolveProgram ⟨"/p"⟩ "bin/bundle" = ⟨"/p/bin/bundle"⟩ := by decide +kernel
    have located : Tree.withBundle.locate [] ⟨"/p"⟩ =
        .ok ⟨["p"], some (1, ⟨.directory, 0o755, 0⟩)⟩ := rfl
    simp only [Setting.start, Setting.prepare, launch, r, i, resolved, located, Bind.bind, Except.bind,
      Found.entry?, Option.map, Setting.find_withBundle]
    rfl
  obtain ⟨byRule, -⟩ := starts s ⟨"test"⟩ i none { tree := .withBundle } 101 sound started
  refine ⟨started, byRule, by decide +kernel, ?_⟩
  obtain ⟨-, alike⟩ := leads .withBundle none i.program
  exact alike sound Tree.scriptsFromTop_withBundle fun bare => absurd bare (by decide)

end Runner

/-- A separator at the end of a single component is not seen: the program is neither taken from the
root, nor a name that could be searched for. -/
theorem padded_program_not_resolved :
    let root : Path := ⟨"/project"⟩
    let program := "bundle/"
    root.isAbsolute = true ∧ (⟨program⟩ : Path).isAbsolute = false ∧ '/' ∈ program.toList ∧
      root.join ⟨program⟩ = ⟨"/project/bundle/"⟩ ∧ resolveProgram root program = ⟨"bundle/"⟩ ∧
      resolveProgram root program ≠ programByRule root program ∧
      ¬(resolveProgram root program).IsPlaced := by
  decide +kernel

end AssetWatch
