import AssetWatch.Proofs.Config.Loading
import AssetWatch.Proofs.Session.Refinement

/-!
# Reloads

Each configuration that is passed on comes into force once, whole and in its turn, and everything
is built for it. What is not passed on changes nothing. So the configuration in force is the one
passed on last whenever the loop waits with none in the queue.
-/

namespace AssetWatch

open Host (Tree Place Fault)

namespace WatchLoop

/-! ## Configurations in the queue -/

section Queue

variable {l m n : WatchLoop} {e : LoopEvent} {ps : List Passage}

/-- Configurations only arrive behind the queue, and only leave from its front, to come into
force. -/
theorem updates_step (h : l.step? e = some m) :
    l.updates ++ (Passage.mk l e m).loaded = (Passage.mk l e m).taken?.toList ++ m.updates := by
  obtain ⟨-, h⟩ := move_of_step? h
  cases h with
  | takeUpdate restart config rest waiting queue => simp [Passage.loaded, Passage.taken?, queue]
  | _ => simp [Passage.loaded, Passage.taken?]

theorem Run.updates (run : Run l ps n) :
    l.updates ++ ps.flatMap Passage.loaded = ps.filterMap Passage.taken? ++ n.updates := by
  induction run with
  | refl => simp
  | @step l m n e ps hs _ ih =>
    have taken : (Passage.mk l e m :: ps).filterMap Passage.taken? =
        (Passage.mk l e m).taken?.toList ++ ps.filterMap Passage.taken? := by
      rw [List.filterMap_cons]
      cases (Passage.mk l e m).taken? <;> rfl
    rw [List.flatMap_cons, ← List.append_assoc, updates_step hs, List.append_assoc, ih, taken,
      List.append_assoc]

/-- Only an event that takes a configuration touches the configuration and the watchers, or starts
a build for a reload. -/
theorem kept_step (h : l.step? e = some m) (none : (Passage.mk l e m).taken? = none) :
    m.config = l.config ∧ m.source.matcher = l.source.matcher ∧
      m.source.observation = l.source.observation ∧
      ∀ categories, m.phase = .building .reload categories → l.phase = .building .reload categories := by
  obtain ⟨-, h⟩ := move_of_step? h
  cases h with
  | takeUpdate => cases none
  | takeBatches | finish | shutdown => exact ⟨rfl, rfl, rfl, nofun⟩
  | _ => exact ⟨rfl, rfl, rfl, fun _ => id⟩

end Queue

namespace History

variable {w : ConfigWatch} {l n : WatchLoop} {heard : FileReports} {ps : List Passage}

private theorem forwarded_eq (h : History w l heard ps n) :
    w.forwarded heard = ps.flatMap Passage.loaded := by
  induction h with
  | refl => rfl
  | passed forwarded _ _ ih =>
    rw [ConfigWatch.forwarded_cons, forwarded, ih, List.flatMap_cons]
    rfl
  | passedOver nothing _ ih =>
    rw [ConfigWatch.forwarded_cons, nothing, ih]
    rfl
  | @step _ _ _ e _ _ _ other _ ih =>
    have none : ∀ before after, (Passage.mk before e after).loaded = [] := by
      cases e with
      | update => exact other.elim
      | _ => exact fun _ _ => rfl
    rw [ih, List.flatMap_cons, none, List.nil_append]

/-- Reports that pass nothing on might as well not have been heard. -/
theorem filter (h : History w l heard ps n) :
    History w l (heard.filter fun report => (w.forward report.1 report.2).isSome) ps n := by
  induction h with
  | refl => exact .refl _
  | passed forwarded hs _ ih =>
    rw [List.filter_cons_of_pos (by simp [forwarded])]
    exact .passed forwarded hs ih
  | passedOver nothing _ ih =>
    rw [List.filter_cons_of_neg (by simp [nothing])]
    exact ih
  | step hs other _ ih => exact .step hs other ih

end History

/-! ## What comes into force -/

structure Reloaded (w : ConfigWatch) (first : WatchLoop) (heard : FileReports) (ps : List Passage)
    (l : WatchLoop) : Prop where
  /-- what came into force, and what still waits, is what was passed on, in its order -/
  inOrder : w.PassesOn heard (ps.filterMap Passage.taken? ++ l.updates)
  /-- at every moment the configuration that was taken last is in force, as it was passed on -/
  inForce : ∀ qs p rs, ps = qs ++ p :: rs →
    p.after.config = (last? Passage.taken? (qs ++ [p])).getD first.config
  /-- everything is built for each configuration that is taken -/
  reloads : ∀ p ∈ ps, ∀ restart, p.event = .takeUpdate restart → p.Reloads restart
  /-- nothing more is taken until that build ends, and only a shutdown breaks it off -/
  attempted : ∀ qs p rs restart, ps = qs ++ p :: rs → p.event = .takeUpdate restart →
    (∀ r ∈ rs, r.event.finishes = false) → (∀ r ∈ rs, r.event.takes = false) ∧
      (l.phase = .building .reload p.after.config.categories ∨ l.phase = .stopped)
  /-- nothing else touches the configuration or the watchers, or starts a build for a reload -/
  kept : ∀ p ∈ ps, p.taken? = none → p.after.config = p.before.config ∧
    p.after.source.matcher = p.before.source.matcher ∧
    p.after.source.observation = p.before.source.observation ∧
    ∀ categories, p.after.phase = .building .reload categories →
      p.before.phase = .building .reload categories
  /-- reports that pass nothing on make no difference -/
  ignored : History w first (heard.filter fun report => (w.forward report.1 report.2).isSome) ps l
  /-- a loop that waits with none in the queue has the configuration that was passed on last -/
  settled : l.phase = .waiting → l.updates = [] → ∀ passed, w.PassesOn heard passed →
    l.config = passed.getLast?.getD first.config

private theorem History.reloaded {w : ConfigWatch} {first l : WatchLoop} {heard : FileReports}
    {ps : List Passage} (history : History w first heard ps l) (fresh : first.updates = []) :
    Reloaded w first heard ps l := by
  have run := history.run
  have passed : w.forwarded heard = ps.filterMap Passage.taken? ++ l.updates := by
    have updates := run.updates
    rwa [fresh, List.nil_append, ← history.forwarded_eq] at updates
  exact {
    inOrder := ConfigWatch.passesOn_iff.2 passed
    inForce := by
      rintro qs p rs rfl
      obtain ⟨before, hs, -⟩ := run.exists_step
      exact (before.trans (.step hs (.refl _))).config_eq
    reloads := by
      rintro ⟨before, event, after⟩ hp restart rfl
      exact reloads_step (run.step_of_mem hp)
    attempted := by
      rintro qs ⟨before, event, after⟩ rs restart rfl rfl going
      obtain ⟨-, hs, later⟩ := run.exists_step
      have build := (reloads_step hs).build
      have holds := later.holds build going
      refine ⟨holds.takesNothing, ?_⟩
      rw [← build]
      exact holds.phase
    kept := fun p hp none => kept_step (run.step_of_mem hp) none
    ignored := history.filter
    settled := by
      intro _ empty found hfound
      rw [ConfigWatch.passesOn_iff, passed, empty, List.append_nil] at hfound
      rw [run.config_eq, last?, hfound] }

/-- Configurations come into force as they are passed on: each once, in their order and whole, and
each with a build of everything. The loop of a watching session does so, whatever is heard. -/
theorem reloads_follow_reports (s : Session) :
    (∀ reports passed, (Watching.configWatch s).PassesOn reports passed ↔
      (Watching.configWatch s).forwarded reports = passed) ∧
    (∀ t cwd heard ps l,
      History (Watching.configWatch s) (start t cwd s.root s.config) heard ps l →
        Reloaded (Watching.configWatch s) (start t cwd s.root s.config) heard ps l) ∧
    ∀ {σ : Type} (x : World σ) (ledger : Ledger σ) (w w' : Watching σ) (heard : FileReports),
      Watching.start s x ledger = .ok w → Watching.Turns x w heard w' → ∃ t cwd ps l,
        History (Watching.configWatch s) (start t cwd s.root s.config) heard ps l ∧
        l.Matches w'.loop ∧ w'.session = s.replaceConfig l.config := by
  refine ⟨fun _ _ => ConfigWatch.passesOn_iff, fun t cwd heard ps l history => ?_, ?_⟩
  · exact history.reloaded rfl
  · intro σ x ledger w w' heard started turns
    have follows := (Watching.follows_start started).turns turns
    obtain ⟨ps, l, history, same⟩ := follows.history
    refine ⟨_, _, ps, l, history, same, ?_⟩
    obtain ⟨observation, same⟩ := same
    rw [follows.session, same]

def edits : FileReports :=
  let file : Path := ⟨"/p/config/bundler.toml"⟩
  [(⟨.modify, [file]⟩, .ok (Config.document "js" "live")),
    (⟨.create, [⟨"/p/config/other.toml"⟩]⟩, .ok (Config.document "js" "test")),
    (⟨.modify, [file]⟩, .ok "="),
    (⟨.remove, [file]⟩, .error .notFound),
    (⟨.create, [file]⟩, .ok (Config.document "css" "test"))]

theorem parse_styles : ∃ c, Config.parse (Config.document "css" "test") = .ok c :=
  exists_of_isSome (by decide +kernel)

private theorem history_edits : ∃ ps l,
    History (Watching.configWatch (Session.ofCategories ["js"]))
      (start {} [] ⟨"/p"⟩ (.ofCategories ["js"])) edits ps l ∧
    l.phase = .waiting ∧ l.updates = [] ∧
    Config.parse (Config.document "css" "test") = .ok l.config := by
  have live : (Config.parse (Config.document "js" "live")).toOption.isSome = true := by
    decide +kernel
  obtain ⟨c, parsed⟩ := exists_of_isSome live
  obtain ⟨c', parsed'⟩ := parse_styles
  have noDocument : Toml.parse "=" = none := Option.isNone_iff_eq_none.1 (by decide +kernel)
  let w := Watching.configWatch (Session.ofCategories ["js"])
  have passed : w.forward ⟨.modify, [⟨"/p/config/bundler.toml"⟩]⟩ _ = some c :=
    ConfigWatch.forward_of_parse (by decide +kernel) parsed
  have passed' : w.forward ⟨.create, [⟨"/p/config/bundler.toml"⟩]⟩ _ = some c' :=
    ConfigWatch.forward_of_parse (by decide +kernel) parsed'
  have other : ¬w.Names ⟨.create, [⟨"/p/config/other.toml"⟩]⟩ := by
    rw [← ConfigWatch.concerns_iff]
    decide +kernel
  have removal : ¬w.Names ⟨.remove, [⟨"/p/config/bundler.toml"⟩]⟩ := by
    rw [← ConfigWatch.concerns_iff]
    decide +kernel
  have step {l m : WatchLoop} {e : LoopEvent} (going : l.phase ≠ .stopped) (move : Move l e m) :
      l.step? e = some m := step?_eq_some_iff.2 ⟨going, move⟩
  exact ⟨_, _,
    .passed passed (step nofun (.update c rfl)) <|
    .step (step nofun (.takeUpdate none c [] rfl rfl)) trivial <|
    .passedOver (ConfigWatch.forward_eq_none_iff.2 (.inl other)) <|
    .passedOver (ConfigWatch.forward_eq_none_iff.2 (.inr ⟨_, .malformed noDocument⟩)) <|
    .step (step nofun (.finish _ _ rfl)) trivial <|
    .passedOver (ConfigWatch.forward_eq_none_iff.2 (.inl removal)) <|
    .passed passed' (step nofun (.update c' rfl)) <|
    .step (step nofun (.takeUpdate (some {}) c' [] rfl rfl)) trivial <|
    .step (step nofun (.finish _ _ rfl)) trivial (.refl _), rfl, rfl, parsed'⟩

/-- A session in a still world hears of a text that is no document. -/
theorem turns_noDocument : ∃ w w',
    Watching.start (Session.ofCategories ["js"]) World.still ⟨(.ofConfig "", []), {}⟩ = .ok w ∧
    Watching.Turns World.still w [(⟨.modify, [⟨"/p/config/bundler.toml"⟩]⟩, .ok "=")] w' := by
  have started : ∃ w, Watching.start (Session.ofCategories ["js"]) World.still
      ⟨(.ofConfig "", []), {}⟩ = .ok w ∧ w.loop.hears = true ∧
      w.session.configPath = ⟨"/p/config/bundler.toml"⟩ := ⟨_, rfl, rfl, rfl⟩
  obtain ⟨w, started, hears, path⟩ := started
  have turn := Watching.Turns.single (x := World.still)
    (.report (.ofConfig "=") ⟨.modify, [⟨"/p/config/bundler.toml"⟩]⟩ w)
  have reading : (Tree.ofConfig "=").readText World.still.cwd ⟨"/p/config/bundler.toml"⟩ = .ok "=" :=
    Tree.readText_ofConfig "="
  rw [if_pos hears, path, reading] at turn
  exact ⟨w, _, started, turn⟩

theorem reloads_follow_reports_edits : ∃ ps l w w' t cwd qs m,
    History (Watching.configWatch (Session.ofCategories ["js"]))
      (start {} [] ⟨"/p"⟩ (.ofCategories ["js"])) edits ps l ∧
    Reloaded (Watching.configWatch (Session.ofCategories ["js"]))
      (start {} [] ⟨"/p"⟩ (.ofCategories ["js"])) edits ps l ∧
    l.phase = .waiting ∧ l.updates = [] ∧
    Config.parse (Config.document "css" "test") = .ok l.config ∧
    Watching.start (Session.ofCategories ["js"]) World.still ⟨(.ofConfig "", []), {}⟩ = .ok w ∧
    Watching.Turns World.still w [(⟨.modify, [⟨"/p/config/bundler.toml"⟩]⟩, .ok "=")] w' ∧
    History (Watching.configWatch (Session.ofCategories ["js"]))
      (start t cwd ⟨"/p"⟩ (.ofCategories ["js"]))
      [(⟨.modify, [⟨"/p/config/bundler.toml"⟩]⟩, .ok "=")] qs m ∧
    m.Matches w'.loop ∧ w'.session = (Session.ofCategories ["js"]).replaceConfig m.config := by
  obtain ⟨ps, l, history, waiting, empty, styles⟩ := history_edits
  obtain ⟨w, w', started, turns⟩ := turns_noDocument
  obtain ⟨-, follows, watches⟩ := reloads_follow_reports (Session.ofCategories ["js"])
  obtain ⟨t, cwd, qs, m, told, same, session⟩ := watches World.still _ w w' _ started turns
  exact ⟨ps, l, w, w', t, cwd, qs, m, history, follows _ _ _ _ _ history, waiting, empty, styles,
    started, turns, told, same, session⟩

end WatchLoop

end AssetWatch
