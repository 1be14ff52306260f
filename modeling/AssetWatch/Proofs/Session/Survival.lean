import AssetWatch.Proofs.Session.Accounts
import AssetWatch.Proofs.Session.Stopping
import Mathlib.Logic.Relation

/-!
# A session survives its failures

A session fails before it watches, or not at all: folders that the system refuses to watch keep it
from starting, and once it has started nothing but a shutdown ends it. Builds that cannot be planned
or fail, texts that cannot be loaded, watchers that cannot be restarted or report no more leave a
session that waits or builds, takes what is queued and can still be stopped. Watchers that cannot be
restarted stay as they are, under the new configuration.
-/

namespace AssetWatch

open Host (Tree Fault)

section Results

variable {ε ε' α β : Type} {e : Except ε α} {f : α → Except ε Unit} {as : List α} {error : ε}

theorem bind_eq_error_iff {f : α → Except ε β} :
    e >>= f = .error error ↔ e = .error error ∨ ∃ a, e = .ok a ∧ f a = .error error := by
  cases e with
  | ok a =>
    refine ⟨fun h => .inr ⟨a, rfl, h⟩, ?_⟩
    rintro (h | ⟨_, same, h⟩)
    · cases h
    · cases same
      exact h
  | error _ =>
    refine ⟨fun h => .inl (by cases h; rfl), ?_⟩
    rintro (h | ⟨_, same, -⟩)
    · cases h
      rfl
    · cases same

theorem mapError_eq_error_iff {f : ε → ε'} {error : ε'} :
    e.mapError f = .error error ↔ ∃ inner, e = .error inner ∧ f inner = error := by
  cases e <;> simp [Except.mapError]

theorem forM_eq_ok_iff : as.forM f = .ok () ↔ ∀ a ∈ as, f a = .ok () := by
  induction as with
  | nil => simp [List.forM, pure, Except.pure]
  | cons a as ih =>
    rw [List.forM, bind_eq_ok_iff, List.forall_mem_cons, ← ih]
    exact ⟨fun ⟨_, first, rest⟩ => ⟨first, rest⟩, fun ⟨first, rest⟩ => ⟨(), first, rest⟩⟩

private theorem exists_of_forM_eq_error (fails : as.forM f = .error error) :
    ∃ a ∈ as, f a = .error error := by
  induction as with
  | nil => cases fails
  | cons a as ih =>
    rw [List.forM] at fails
    rcases bind_eq_error_iff.1 fails with here | ⟨_, -, later⟩
    · exact ⟨a, List.mem_cons_self, here⟩
    · obtain ⟨b, mem, there⟩ := ih later
      exact ⟨b, List.mem_cons_of_mem a mem, there⟩

end Results

namespace Watching

variable {σ : Type} {s : Session} {x : World σ} {u v w : Watching σ} {heard : FileReports}
  {config : Config} {rest : List Config}

/-! ## Starting -/

theorem checkFolder_eq_error_iff {x : Executor σ} {folder : Path} {error : BuildError} :
    checkFolder x folder = .error error ↔
      ∃ fault, x.watchFault? folder = some fault ∧ error = .watch folder fault := by
  unfold checkFolder
  cases x.watchFault? folder <;> simp [eq_comm]

theorem checkFolder_eq_ok_iff {x : Executor σ} {folder : Path} :
    checkFolder x folder = .ok () ↔ x.watchFault? folder = none := by
  unfold checkFolder
  cases x.watchFault? folder <;> simp

def Refuses (s : Session) (x : Executor σ) (t : Tree) (targets : Targets) (folder : Path)
    (fault : Fault) : Prop :=
  folder ∈ (Matcher.ofTargets t x.cwd s.root targets).watchRoots ∧ t.isThere x.cwd folder = true ∧
    x.watchFault? folder = some fault

theorem checkTargets_eq_ok_iff {x : Executor σ} {t : Tree} {targets : Targets} :
    checkTargets s x t targets = .ok () ↔ ∀ folder fault, ¬Refuses s x t targets folder fault := by
  rw [checkTargets, forM_eq_ok_iff]
  simp only [List.mem_filter, checkFolder_eq_ok_iff, Refuses, not_and, and_imp,
    Option.eq_none_iff_forall_ne_some]
  exact forall_congr' fun folder => ⟨fun h fault mem there => h mem there fault,
    fun h mem there fault => h fault mem there⟩

private theorem refuses_of_checkTargets {x : Executor σ} {t : Tree} {targets : Targets}
    {error : BuildError}
    (fails : checkTargets s x t targets = .error error) :
    ∃ folder fault, Refuses s x t targets folder fault ∧ error = .watch folder fault := by
  obtain ⟨folder, mem, checked⟩ := exists_of_forM_eq_error fails
  obtain ⟨fault, refused, same⟩ := checkFolder_eq_error_iff.1 checked
  obtain ⟨root, there⟩ := List.mem_filter.1 mem
  exact ⟨folder, fault, ⟨root, there, refused⟩, same⟩

inductive StartFault (s : Session) (x : Executor σ) (t : Tree) : BuildError → Prop
  /-- the folder of the configuration file cannot be found -/
  | missing {fault : Fault} (wanted : s.config.watcher.watchConfig = true)
      (missing : Observation.startFlat t x.cwd (configWatch s).folder = .error fault) :
      StartFault s x t (.watch (configWatch s).folder fault)
  /-- the folder of the configuration file cannot be watched -/
  | config {fault : Fault} (wanted : s.config.watcher.watchConfig = true)
      (refused : x.watchFault? (configWatch s).folder = some fault) :
      StartFault s x t (.watch (configWatch s).folder fault)
  /-- a folder of the targets cannot be watched -/
  | source {folder : Path} {fault : Fault}
      (refused : Refuses s x t s.config.targets folder fault) : StartFault s x t (.watch folder fault)

private theorem observeConfig_of_unwanted {x : Executor σ} {t : Tree}
    (unwanted : s.config.watcher.watchConfig = false) : observeConfig s x t = .ok {} := by
  rw [observeConfig, unwanted]
  rfl

private theorem observeConfig_of_wanted {x : Executor σ} {t : Tree}
    (wanted : s.config.watcher.watchConfig = true) : observeConfig s x t =
      ((Observation.startFlat t x.cwd (configWatch s).folder).mapError
        (.watch (configWatch s).folder) >>= fun o =>
          checkFolder x (configWatch s).folder >>= fun _ => .ok o) := by
  rw [observeConfig, wanted]
  rfl

private theorem startFault_of_observeConfig {x : Executor σ} {t : Tree} {error : BuildError}
    (fails : observeConfig s x t = .error error) : StartFault s x t error := by
  cases wanted : s.config.watcher.watchConfig with
  | false =>
    rw [observeConfig_of_unwanted wanted] at fails
    cases fails
  | true =>
    rw [observeConfig_of_wanted wanted] at fails
    rcases bind_eq_error_iff.1 fails with observed | ⟨o, -, rest⟩
    · obtain ⟨fault, missing, rfl⟩ := mapError_eq_error_iff.1 observed
      exact .missing wanted missing
    · rcases bind_eq_error_iff.1 rest with checked | ⟨_, -, kept⟩
      · obtain ⟨fault, refused, rfl⟩ := checkFolder_eq_error_iff.1 checked
        exact .config wanted refused
      · cases kept

/-- A session starts exactly if nothing keeps its watchers from it, and fails with what does. -/
theorem start_eq_error {l : Ledger σ} {error : BuildError} (fails : start s x l = .error error) :
    StartFault s x.toExecutor (x.tree (x.takeIncidents l.state).2) error := by
  rcases bind_eq_error_iff.1 fails with observed | ⟨_, -, rest⟩
  · exact startFault_of_observeConfig observed
  · rcases bind_eq_error_iff.1 rest with checked | ⟨_, -, started⟩
    · obtain ⟨folder, fault, refused, rfl⟩ := refuses_of_checkTargets checked
      exact .source refused
    · cases started

private theorem not_startFault {l : Ledger σ} (started : start s x l = .ok w) (error : BuildError) :
    ¬StartFault s x.toExecutor (x.tree (x.takeIncidents l.state).2) error := by
  simp only [start, bind_eq_ok_iff] at started
  obtain ⟨o, observed, _, checked, -⟩ := started
  intro fault
  cases fault with
  | missing wanted missing =>
    rw [observeConfig_of_wanted wanted, missing] at observed
    cases observed
  | config wanted refused =>
    rw [observeConfig_of_wanted wanted] at observed
    obtain ⟨_, -, observed⟩ := bind_eq_ok_iff.1 observed
    obtain ⟨_, accepted, -⟩ := bind_eq_ok_iff.1 observed
    cases (checkFolder_eq_ok_iff.1 accepted).symm.trans refused
  | source refused => exact checkTargets_eq_ok_iff.1 checked _ _ refused

/-! ## Failures while watching -/

/-- Whatever may happen to a session but a shutdown, in whatever world it is by then: a turn, or that
its watchers report no more, or that no more configurations are loaded. -/
inductive Occurs (w : Watching σ) : Watching σ → Prop
  | turn {x : World σ} {heard : FileReports} {v : Watching σ} (turn : Turn x w heard v) : Occurs w v
  | sourceEnds : Occurs w (w.follow .sourceEnds)
  | updatesEnd : Occurs w (w.follow .updatesEnd)

private theorem Comes.occurs (h : Comes x w v) : Relation.ReflTransGen Occurs w v := by
  obtain ⟨heard, turns⟩ := h
  induction turns with
  | refl => exact .refl
  | tail _ last ih => exact ih.tail (.turn last)

/-- A session waits and no build goes on, or a build goes on of which a process runs. -/
inductive Engaged (w : Watching σ) : Prop
  | waits (waiting : w.loop.phase = .waiting) (none : w.going? = none)
  | builds {cause : Cause} {categories : List String} {going : Going}
      (building : w.loop.phase = .building cause categories) (goes : w.going? = some going)
      (runs : going.run.running ≠ [])

structure Alive (w : Watching σ) : Prop where
  engaged : Engaged w
  inForce : w.session.config = w.loop.config

namespace Alive

theorem going (h : Alive w) : w.loop.phase ≠ .stopped := by
  intro stopped
  cases h.engaged with
  | waits waiting => cases stopped.symm.trans waiting
  | builds building => cases stopped.symm.trans building

/-- Only the phase and the build that goes on matter, and which configuration is in force. -/
theorem congr (h : Alive w) (phase : v.loop.phase = w.loop.phase) (going : v.going? = w.going?)
    (inForce : v.session.config = v.loop.config) : Alive v := by
  refine ⟨?_, inForce⟩
  cases h.engaged with
  | waits waiting none => exact .waits (phase.trans waiting) (going.trans none)
  | builds building goes runs => exact .builds (phase.trans building) (going.trans goes) runs

/-- What neither starts nor ends a build lets the session go on as it does. -/
theorem follow (h : Alive w) {e : LoopEvent} (takes : e.takes = false)
    (finishes : e.finishes = false)
    (own : ∀ reception, e ≠ .shutdown reception) : Alive (w.follow e) := by
  unfold Watching.follow
  split
  · rename_i loop step
    refine h.congr ?_ rfl rfl
    cases (WatchLoop.move_of_step? step).2 with
    | takeBatches | takeUpdate => cases takes
    | finish => cases finishes
    | shutdown reception => exact absurd rfl (own reception)
    | _ => rfl
  · exact h

end Alive

private theorem follow_of_move {e : LoopEvent} {loop : WatchLoop} (going : w.loop.phase ≠ .stopped)
    (move : w.loop.Move e loop) :
    w.follow e = { w with loop, session := w.session.replaceConfig loop.config } := by
  rw [follow, WatchLoop.step?_eq_some_iff.2 ⟨going, move⟩]

private theorem follow_finish {cause : Cause} {categories : List String}
    (building : w.loop.phase = .building cause categories) : w.follow .finish =
      { w with
        loop := { w.loop with phase := .waiting }
        session := w.session.replaceConfig w.loop.config } := by
  have going : w.loop.phase ≠ .stopped := by
    rw [building]
    exact nofun
  exact follow_of_move going (.finish cause categories building)

private theorem alive_follow_finish {cause : Cause} {categories : List String}
    (building : w.loop.phase = .building cause categories) (none : w.going? = none) :
    Alive (w.follow .finish) := by
  rw [follow_finish building]
  exact ⟨.waits rfl none, rfl⟩

/-- A build ends as soon as none of its processes runs. -/
theorem alive_settle {cause : Cause} {categories : List String} {going : Going}
    (building : w.loop.phase = .building cause categories) (goes : w.going? = some going)
    (inForce : w.session.config = w.loop.config) : Alive w.settle := by
  by_cases ended : going.run.isDone
  · simp only [settle, goes, ended, if_true]
    exact alive_follow_finish building rfl
  · simp only [settle, goes, ended]
    exact ⟨.builds building goes (by simpa [FanOut.isDone] using ended), inForce⟩

/-- The build that the loop asks for goes on, or is over at once. -/
theorem alive_beginBuild (going : w.loop.phase ≠ .stopped) (none : w.going? = none)
    (inForce : w.session.config = w.loop.config) : Alive (w.beginBuild x) := by
  unfold beginBuild
  split
  · rename_i building
    dsimp only
    split
    · exact alive_follow_finish building none
    · exact alive_settle building rfl inForce
  · rename_i idle
    cases waiting : w.loop.phase with
    | waiting => exact ⟨.waits waiting none, inForce⟩
    | building cause categories => exact absurd waiting (idle cause categories)
    | stopped => exact absurd waiting going

namespace Alive

theorem take? (h : Alive w) (taken : w.take? x = some v) : Alive v := by
  obtain ⟨waiting, u, takes, rfl⟩ := take?_cases taken
  have none : w.going? = none := by
    cases h.engaged with
    | waits _ none => exact none
    | builds building => cases waiting.symm.trans building
  have going {e : LoopEvent} (own : ∀ reception, e ≠ .shutdown reception) :
      (w.follow e).loop.phase ≠ .stopped ∧
        (w.follow e).session.config = (w.follow e).loop.config := by
    unfold Watching.follow
    split
    · rename_i step
      exact ⟨WatchLoop.phase_ne_stopped own step, rfl⟩
    · exact ⟨h.going, h.inForce⟩
  cases takes with
  | batches =>
    obtain ⟨going, inForce⟩ := going (e := .takeBatches) nofun
    exact alive_beginBuild going ((going?_follow ..).trans none) inForce
  | update restart =>
    obtain ⟨going, inForce⟩ := going (e := .takeUpdate restart) nofun
    exact alive_beginBuild going ((going?_follow ..).trans none) inForce

theorem turn (h : Alive w) (turn : Turn x w heard v) : Alive v := by
  cases turn with
  | look | edit | wait | observe => exact h.congr rfl rfl h.inForce
  | report tree e =>
    rcases reload_cases (x := x) tree e w with same | ⟨config, same⟩ <;> rw [same]
    · exact h
    · exact h.follow rfl rfl nofun
  | change now path =>
    have seen := h.follow (e := .change path) rfl rfl nofun
    exact seen.congr rfl rfl seen.inForce
  | endBurst now =>
    rcases endBurst_cases now w with same | same <;> rw [same]
    · exact h
    · have ended := h.follow (e := .burstEnds) rfl rfl nofun
      exact ended.congr rfl rfl ended.inForce
  | complete completed =>
    obtain ⟨going, _, _, _, goes, -, rfl⟩ := completeProcess_cases completed
    cases h.engaged with
    | waits _ none => cases none.symm.trans goes
    | builds building => exact alive_settle building rfl h.inForce
  | take taken => exact h.take? taken

private theorem occurs (h : Alive w) (occurs : Occurs w v) : Alive v := by
  cases occurs with
  | turn turn => exact h.turn turn
  | sourceEnds | updatesEnd => exact h.follow rfl rfl nofun

private theorem endures (h : Alive w) (occurs : Relation.ReflTransGen Occurs w v) : Alive v := by
  induction occurs with
  | refl => exact h
  | tail _ last ih => exact ih.occurs last

end Alive

private theorem alive_start {l : Ledger σ} (started : start s x l = .ok w) : Alive w := by
  simp only [start, bind_eq_ok_iff] at started
  obtain ⟨_, -, _, -, same⟩ := started
  cases same
  exact ⟨.waits rfl rfl, rfl⟩

/-! ## Watchers that cannot be restarted -/

structure Spares (w v : Watching σ) : Prop where
  source : v.loop.source = w.loop.source
  deadline? : v.deadline? = w.deadline?
  quietMs : v.quietMs = w.quietMs
  configFolder : v.configFolder = w.configFolder
  updates : v.loop.updates = w.loop.updates
  listens : v.loop.listens = w.loop.listens
  config : v.loop.config = w.loop.config
  session : v.session = w.session

namespace Spares

theorem refl (w : Watching σ) : Spares w w := ⟨rfl, rfl, rfl, rfl, rfl, rfl, rfl, rfl⟩

theorem trans (h : Spares w u) (h' : Spares u v) : Spares w v where
  source := h'.source.trans h.source
  deadline? := h'.deadline?.trans h.deadline?
  quietMs := h'.quietMs.trans h.quietMs
  configFolder := h'.configFolder.trans h.configFolder
  updates := h'.updates.trans h.updates
  listens := h'.listens.trans h.listens
  config := h'.config.trans h.config
  session := h'.session.trans h.session

theorem finish (inForce : w.session.config = w.loop.config) : Spares w (w.follow .finish) := by
  unfold Watching.follow
  split
  · rename_i loop step
    cases (WatchLoop.move_of_step? step).2
    refine ⟨rfl, rfl, rfl, rfl, rfl, rfl, rfl, ?_⟩
    change w.session.replaceConfig w.loop.config = w.session
    rw [← inForce]
    rfl
  · exact refl w

theorem settle (inForce : w.session.config = w.loop.config) : Spares w w.settle := by
  rcases settle_cases w with same | ⟨going, -, -, same⟩ <;> rw [same]
  · exact refl w
  · exact trans (by constructor <;> rfl) (finish (by exact inForce))

/-- Builds have nothing to do with the watchers. -/
theorem beginBuild (inForce : w.session.config = w.loop.config) : Spares w (w.beginBuild x) := by
  have begins := begins_beginBuild (x := x) w
  generalize w.beginBuild x = v at begins ⊢
  cases begins with
  | idle => exact refl w
  | refused => exact trans (by constructor <;> rfl) (finish (by exact inForce))
  | planned => exact trans (by constructor <;> rfl) (settle (by exact inForce))

end Spares

theorem restart?_eq_none_iff : w.restart? x config = none ↔ ∃ folder fault,
    Refuses w.session x.toExecutor (x.tree w.ledger.state) config.targets folder fault := by
  unfold restart?
  dsimp only
  split
  · rename_i checked
    have accepted := checkTargets_eq_ok_iff.1 checked
    exact ⟨nofun, fun ⟨folder, fault, refused⟩ => absurd refused (accepted folder fault)⟩
  · rename_i checked
    obtain ⟨folder, fault, refused, -⟩ := refuses_of_checkTargets checked
    exact ⟨fun _ => ⟨folder, fault, refused⟩, fun _ => rfl⟩

/-- A configuration has come into force and everything is to be built for it. Nothing else has
changed: neither the files, nor the watchers, nor what these have seen and reported. -/
def underNext (config : Config) (rest : List Config) (w : Watching σ) : Watching σ :=
  { w with
    loop := { w.loop with config, updates := rest, phase := .building .reload config.categories }
    session := w.session.replaceConfig config }

/-- A configuration comes into force although its watchers cannot be started. -/
theorem take?_of_noRestart (waiting : w.loop.phase = .waiting)
    (queue : w.loop.updates = config :: rest)
    (fails : w.restart? x config = none) :
    w.take? x = some ((w.underNext config rest).beginBuild x) := by
  have going : w.loop.phase ≠ .stopped := by
    rw [waiting]
    exact nofun
  rw [take?]
  simp only [waiting, queue, takeUpdate, fails,
    follow_of_move going (.takeUpdate none config rest waiting queue), Option.isSome_none,
    Bool.false_eq_true, if_false]
  rfl

/-! ## Survival -/

/-- A session goes on after whatever has failed: it waits or builds, takes what is queued once it
waits, keeps watchers that cannot be restarted, and ends by a shutdown only. -/
structure Survives (w : Watching σ) : Prop where
  alive : Alive w
  /-- with anything in a queue, a waiting session takes it, and goes on -/
  takes : ∀ x : World σ, w.loop.phase = .waiting →
    w.loop.updates ≠ [] ∨ w.loop.source.batches ≠ [] → ∃ v, w.take? x = some v ∧ Alive v
  /-- with folders that cannot be watched, a configuration comes into force under the old watchers -/
  keeps : ∀ (x : World σ) (config : Config) (rest : List Config), w.loop.phase = .waiting →
    w.loop.updates = config :: rest →
    (∃ folder fault,
      Refuses w.session x.toExecutor (x.tree w.ledger.state) config.targets folder fault) →
    ∃ v, w.take? x = some v ∧ v = (w.underNext config rest).beginBuild x ∧
      Spares (w.underNext config rest) v ∧ Alive v
  /-- whatever it does by itself until some time, it goes on -/
  goesOn : ∀ (x : World σ) (limit fuel : Nat), Alive (w.advance x limit fuel)
  /-- it can be stopped at any time -/
  stops : ∀ reception, reception.resolves = true →
    w.loop.step? (.shutdown reception) = some { w.loop with phase := .stopped }
  /-- and nothing else stops it -/
  onlyShutdown : ∀ e loop, w.loop.step? e = some loop → loop.phase = .stopped →
    ∃ reception, e = .shutdown reception

private theorem Alive.survives (h : Alive w) : Survives w where
  alive := h
  takes x waiting queued := by
    obtain ⟨v, taken⟩ : ∃ v, w.take? x = some v := by
      rw [Watching.take?, waiting]
      cases updates : w.loop.updates with
      | cons config rest => exact ⟨_, rfl⟩
      | nil =>
        obtain ⟨first, rest, batches⟩ := List.exists_cons_of_ne_nil (queued.resolve_left (· updates))
        rw [batches]
        exact ⟨_, rfl⟩
    exact ⟨v, taken, h.take? taken⟩
  keeps x config rest waiting queue refused := by
    have taken := take?_of_noRestart waiting queue (restart?_eq_none_iff.2 refused)
    exact ⟨_, taken, rfl, .beginBuild rfl, h.take? taken⟩
  goesOn x limit fuel := h.endures (Comes.advance fuel w).occurs
  stops reception resolves := (WatchLoop.step?_shutdown h.going).2 ⟨resolves, rfl⟩
  onlyShutdown e loop step stopped := by
    by_contra own
    exact WatchLoop.phase_ne_stopped (fun reception same => own ⟨reception, same⟩) step stopped

/-- A session fails to start only if the folder of its configuration or a folder of its targets
cannot be watched, and it does fail then. Once it has started, it survives whatever fails, in any
order and as often as it likes. -/
theorem survives_failures (s : Session) (x : World σ) (l : Ledger σ) :
    (∀ error, start s x l = .error error →
      StartFault s x.toExecutor (x.tree (x.takeIncidents l.state).2) error) ∧
    ((∃ error, StartFault s x.toExecutor (x.tree (x.takeIncidents l.state).2) error) →
      ∃ error, start s x l = .error error) ∧
    ∀ w, start s x l = .ok w → ∀ v, Relation.ReflTransGen Occurs w v → Survives v := by
  refine ⟨fun _ => start_eq_error, ?_, fun w started v occurs => ?_⟩
  · rintro ⟨error, fault⟩
    cases result : start s x l with
    | error e => exact ⟨e, rfl⟩
    | ok w => exact absurd fault (not_startFault result error)
  · exact ((alive_start started).endures occurs).survives

end Watching

/-! ## Styles that cannot be watched -/

def World.refusing : World (Tree × List String) :=
  { World.still with watchFault? := fun folder => if folder = ⟨"/p/css"⟩ then some .accessDenied else none }

namespace Watching

/-- Scripts are watched, although they are not there. -/
theorem start_refusing : ∃ w, start (Session.ofCategories ["js"]) World.refusing
    ⟨(.ofProject "" "css", []), {}⟩ = .ok w ∧ w.loop.phase = .waiting ∧ w.loop.listens = true ∧
      w.loop.updates = [] ∧ w.session = Session.ofCategories ["js"] ∧
      w.ledger.state.1 = .ofProject "" "css" := by
  obtain ⟨w, started⟩ := exists_of_isSome (e := start (Session.ofCategories ["js"]) World.refusing
    ⟨(.ofProject "" "css", []), {}⟩) (by decide +kernel)
  refine ⟨w, started, ?_⟩
  simp only [start, bind_eq_ok_iff] at started
  obtain ⟨_, -, _, -, same⟩ := started
  cases same
  exact ⟨rfl, rfl, rfl, rfl, rfl⟩

/-- Styles take the place of scripts and cannot be watched; neither the old watchers nor the file are
heard of any more. The styles come into force, under the watchers of the scripts. -/
theorem survives_failures_refusing : ∃ w u v c,
    (∃ error, start (Session.ofCategories ["css"]) World.refusing
      ⟨(.ofProject "" "css", []), {}⟩ = .error error) ∧
    start (Session.ofCategories ["js"]) World.refusing ⟨(.ofProject "" "css", []), {}⟩ = .ok w ∧
    Relation.ReflTransGen Occurs w u ∧ u.loop.source.isOpen = false ∧ u.loop.listens = false ∧
    Config.parse (Config.document "css" "test") = .ok c ∧ u.take? World.refusing = some v ∧
    v.loop.config = c ∧ v.loop.source = u.loop.source ∧ v.loop.phase ≠ .stopped := by
  have refused : ((Config.parse (Config.document "css" "test")).toOption.any fun c =>
      (Matcher.ofTargets (.ofProject "" "css") [] ⟨"/p"⟩ c.targets).watchRoots.contains ⟨"/p/css"⟩) =
        true := by decide +kernel
  obtain ⟨c, parsed, root⟩ := exists_of_any refused
  obtain ⟨w, started, waiting, listens, empty, session, tree⟩ := start_refusing
  let file : FileEvent := ⟨.modify, [⟨"/p/config/bundler.toml"⟩]⟩
  let edited : Tree := .ofProject (Config.document "css" "test") "css"
  have forwarded : (configWatch w.session).forward file
      (edited.readText World.refusing.cwd w.session.configPath) = some c := by
    rw [session]
    change (configWatch (Session.ofCategories ["js"])).forward file
      (edited.readText [] ⟨"/p/config/bundler.toml"⟩) = some c
    rw [Tree.readText_ofProject]
    exact ConfigWatch.forward_of_parse (by decide +kernel) parsed
  have going : w.loop.phase ≠ .stopped := by
    rw [waiting]
    exact nofun
  have update : Occurs w (w.follow (.update c)) := by
    have reported : Occurs w (w.reload World.refusing edited file) := .turn (.report edited file w)
    rwa [reload, forwarded] at reported
  obtain ⟨u, occurs, same⟩ : ∃ u, Relation.ReflTransGen Occurs w u ∧ u =
      { w with
        loop := { w.loop with
          source := { w.loop.source.endBurst with isOpen := false }, updates := [c], listens := false }
        session := w.session.replaceConfig w.loop.config } := by
    refine ⟨_, ((Relation.ReflTransGen.single update).tail .sourceEnds).tail .updatesEnd, ?_⟩
    rw [follow_of_move going (.update c listens), follow_of_move (by exact going) .sourceEnds,
      follow_of_move (by exact going) .updatesEnd, empty]
    rfl
  have refuses : Refuses u.session World.refusing.toExecutor (World.refusing.tree u.ledger.state)
      c.targets ⟨"/p/css"⟩ .accessDenied := by
    have place : World.refusing.tree u.ledger.state = .ofProject "" "css" := by
      rw [same]
      exact tree
    have project : u.session.root = ⟨"/p"⟩ := by
      rw [same, session]
      rfl
    rw [place]
    refine ⟨?_, by decide +kernel, by decide +kernel⟩
    rw [project]
    exact List.contains_iff_mem.1 root
  obtain ⟨-, -, survives⟩ := survives_failures (Session.ofCategories ["js"]) World.refusing
    ⟨(.ofProject "" "css", []), {}⟩
  obtain ⟨v, taken, -, spares, alive⟩ := (survives w started u occurs).keeps World.refusing c []
    (by rw [same]; exact waiting) (by rw [same]) ⟨_, _, refuses⟩
  obtain ⟨-, fails, -⟩ := survives_failures (Session.ofCategories ["css"]) World.refusing
    ⟨(.ofProject "" "css", []), {}⟩
  have unwatched : Refuses (Session.ofCategories ["css"]) World.refusing.toExecutor
      (.ofProject "" "css") (Config.ofCategories ["css"]).targets ⟨"/p/css"⟩ .accessDenied :=
    ⟨by decide +kernel, by decide +kernel, by decide +kernel⟩
  exact ⟨w, u, v, c, fails ⟨_, .source unwatched⟩, started, occurs, by rw [same], by rw [same], parsed,
    taken, spares.config, spares.source, alive.going⟩

end Watching

end AssetWatch
