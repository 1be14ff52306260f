import AssetWatch.Proofs.Session.Admission
import AssetWatch.Proofs.Session.Turns

/-!
# A watching session follows the loop

All that a watching session does to its loop are steps of the loop, for it looks at the files, lets
time pass and runs processes beside them. So each of its states is one that a run of the loop leads
to, but for how the folders are observed, and the configurations that the run loads are those that
the reports about the session's file pass on.
-/

namespace AssetWatch

open Host (Tree Place Action Fault)

namespace WatchLoop

/-- A loop comes to another by some events, and hears some reports meanwhile. A report loads what it
passes on, and nothing else loads a configuration. -/
inductive History (w : ConfigWatch) : WatchLoop → FileReports → List Passage → WatchLoop → Prop
  | refl (l : WatchLoop) : History w l [] [] l
  | passed {l m n : WatchLoop} {e : FileEvent} {reading : Except Fault String} {config : Config}
      {heard : FileReports} {ps : List Passage} (forwarded : w.forward e reading = some config)
      (hs : l.step? (.update config) = some m) (rest : History w m heard ps n) :
      History w l ((e, reading) :: heard) (⟨l, .update config, m⟩ :: ps) n
  | passedOver {l n : WatchLoop} {e : FileEvent} {reading : Except Fault String}
      {heard : FileReports} {ps : List Passage} (nothing : w.forward e reading = none)
      (rest : History w l heard ps n) : History w l ((e, reading) :: heard) ps n
  | step {l m n : WatchLoop} {e : LoopEvent} {heard : FileReports} {ps : List Passage}
      (hs : l.step? e = some m) (other : e.Loads fun _ => False) (rest : History w m heard ps n) :
      History w l heard (⟨l, e, m⟩ :: ps) n

namespace History

variable {w : ConfigWatch} {l m n : WatchLoop} {heard more : FileReports} {ps qs : List Passage}

theorem trans (h : History w l heard ps m) (h' : History w m more qs n) :
    History w l (heard ++ more) (ps ++ qs) n := by
  induction h with
  | refl => exact h'
  | passed forwarded hs _ ih => exact .passed forwarded hs (ih h')
  | passedOver nothing _ ih => exact .passedOver nothing (ih h')
  | step hs other _ ih => exact .step hs other (ih h')

theorem run (h : History w l heard ps n) : Run l ps n := by
  induction h with
  | refl l => exact .refl l
  | passed _ hs _ ih => exact .step hs ih
  | passedOver _ _ ih => exact ih
  | step hs _ _ ih => exact .step hs ih

end History

private theorem step?_update (l : WatchLoop) (config : Config) : l.step? (.update config) =
    if l.hears then some { l with updates := l.updates ++ [config] } else none := by
  unfold step? hears
  cases l.isStopped <;> simp

/-- The loops agree, but for how the folders are observed. -/
def Matches (l m : WatchLoop) : Prop :=
  ∃ observation, m = { l with source := { l.source with observation } }

theorem Matches.refl (l : WatchLoop) : l.Matches l := ⟨l.source.observation, rfl⟩

theorem Matches.trans {k l m : WatchLoop} (h : k.Matches l) (h' : l.Matches m) : k.Matches m := by
  obtain ⟨_, rfl⟩ := h
  obtain ⟨observation, rfl⟩ := h'
  exact ⟨observation, rfl⟩

/-- Loops that match take the same steps. -/
theorem Matches.step {l m m' : WatchLoop} {e : LoopEvent} (h : l.Matches m)
    (hs : m.step? e = some m') : ∃ l', l.step? e = some l' ∧ l'.Matches m' := by
  obtain ⟨observation, rfl⟩ := h
  obtain ⟨going, hm⟩ := move_of_step? hs
  have step {l' : WatchLoop} (move : Move l e l') (same : l'.Matches m') :
      ∃ l', l.step? e = some l' ∧ l'.Matches m' := ⟨l', step?_eq_some_iff.2 ⟨going, move⟩, same⟩
  cases hm with
  | change path isOpen => exact step (.change path isOpen) ⟨_, rfl⟩
  | burstEnds => exact step .burstEnds ⟨_, rfl⟩
  | sourceEnds => exact step .sourceEnds ⟨_, rfl⟩
  | update config listens => exact step (.update config listens) ⟨_, rfl⟩
  | updatesEnd => exact step .updatesEnd ⟨_, rfl⟩
  | takeBatches first rest waiting queue => exact step (.takeBatches first rest waiting queue) ⟨_, rfl⟩
  | takeUpdate restart config rest waiting queue =>
    refine step (.takeUpdate restart config rest waiting queue) ?_
    cases restart with
    | none => exact ⟨_, rfl⟩
    | some t => exact .refl _
  | finish cause categories building => exact step (.finish cause categories building) ⟨_, rfl⟩
  | shutdown reception resolves => exact step (.shutdown reception resolves) ⟨_, rfl⟩

end WatchLoop

namespace Watching

variable {σ : Type} {x : World σ} {s : Session} {t : Tree} {cwd : Place} {heard more : FileReports}
  {w w' : Watching σ}

/-- A history of the loop leads to the state of a watching session, which has heard the same reports
and whose configuration is that of the loop. -/
structure Follows (s : Session) (t : Tree) (cwd : Place) (heard : FileReports) (w : Watching σ) : Prop where
  session : w.session = s.replaceConfig w.loop.config
  history : ∃ ps l, WatchLoop.History (configWatch s) (.start t cwd s.root s.config) heard ps l ∧
    l.Matches w.loop

namespace Follows

/-- Only the session and the loop matter. -/
theorem congr (h : Follows s t cwd heard w) (session : w'.session = w.session)
    (loop : w'.loop = w.loop) : Follows s t cwd heard w' := by
  refine ⟨?_, ?_⟩
  · rw [session, loop]
    exact h.session
  · rw [loop]
    exact h.history

/-- What the loop does is what it does in the history, together with what is heard then. -/
theorem extend {e : LoopEvent} {loop : WatchLoop} (h : Follows s t cwd heard w)
    (hs : w.loop.step? e = some loop)
    (tells : ∀ {l l' : WatchLoop}, l.step? e = some l' →
      WatchLoop.History (configWatch s) l more [⟨l, e, l'⟩] l') :
    Follows s t cwd (heard ++ more) (w.follow e) := by
  obtain ⟨ps, l, history, same⟩ := h.history
  obtain ⟨l', stepped, same'⟩ := same.step hs
  have followed : w.follow e = { w with loop, session := w.session.replaceConfig loop.config } := by
    rw [Watching.follow, hs]
  rw [followed]
  refine ⟨?_, ps ++ [⟨l, e, l'⟩], l', history.trans (tells stepped), same'⟩
  rw [h.session]
  rfl

theorem follow {e : LoopEvent} (other : e.Loads fun _ => False) (h : Follows s t cwd heard w) :
    Follows s t cwd heard (w.follow e) := by
  cases hs : w.loop.step? e with
  | none =>
    rw [Watching.follow, hs]
    exact h
  | some loop => simpa using h.extend hs fun stepped => .step stepped other (.refl _)

/-- What is heard was read from the file that the session started with, and passes on what loads. -/
theorem reload (tree : Tree) (e : FileEvent) (h : Follows s t cwd heard w) :
    Follows s t cwd
      (heard ++ if w.loop.hears then [(e, tree.readText x.cwd w.session.configPath)] else [])
      (w.reload x tree e) := by
  have watched : configWatch w.session = configWatch s := by
    rw [h.session]
    rfl
  unfold Watching.reload
  rw [watched]
  cases forwarded : (configWatch s).forward e (tree.readText x.cwd w.session.configPath) with
  | none =>
    obtain ⟨ps, l, history, same⟩ := h.history
    refine ⟨h.session, ps, l, ?_, same⟩
    split
    · simpa using history.trans (.passedOver forwarded (.refl _))
    · simpa using history
  | some config =>
    have update := w.loop.step?_update config
    split
    · rename_i hears
      rw [if_pos hears] at update
      exact h.extend update fun stepped => .passed forwarded stepped (.refl _)
    · rename_i deaf
      rw [if_neg deaf] at update
      simpa [Watching.follow, update] using h

theorem observe (configFolder observation : Observation) (h : Follows s t cwd heard w) :
    Follows s t cwd heard { w with
      configFolder, loop := { w.loop with source := { w.loop.source with observation } } } := by
  obtain ⟨ps, l, history, same⟩ := h.history
  exact ⟨h.session, ps, l, history, same.trans ⟨observation, rfl⟩⟩

theorem change (now : Nat) (path : Path) (h : Follows s t cwd heard w) :
    Follows s t cwd heard (w.change now path) :=
  (h.follow (e := .change path) trivial).congr rfl rfl

theorem endBurst (now : Nat) (h : Follows s t cwd heard w) :
    Follows s t cwd heard (w.endBurst now) := by
  rcases endBurst_cases now w with same | same <;> rw [same]
  · exact h
  · exact (h.follow (e := .burstEnds) trivial).congr rfl rfl

theorem settle (h : Follows s t cwd heard w) : Follows s t cwd heard w.settle := by
  rcases settle_cases w with same | ⟨_, -, -, same⟩ <;> rw [same]
  · exact h
  · exact follow trivial (h.congr rfl rfl)

theorem beginBuild (h : Follows s t cwd heard w) : Follows s t cwd heard (w.beginBuild x) := by
  have begins := begins_beginBuild (x := x) w
  generalize w.beginBuild x = v at begins ⊢
  cases begins with
  | idle => exact h
  | refused => exact follow trivial (h.congr rfl rfl)
  | planned => exact settle (h.congr rfl rfl)

theorem completeProcess (h : Follows s t cwd heard w) (completed : w.completeProcess x = some w') :
    Follows s t cwd heard w' := by
  obtain ⟨_, _, _, _, -, -, rfl⟩ := completeProcess_cases completed
  exact settle (h.congr rfl rfl)

theorem take? (h : Follows s t cwd heard w) (taken : w.take? x = some w') :
    Follows s t cwd heard w' := by
  obtain ⟨-, u, takes, rfl⟩ := take?_cases taken
  cases takes with
  | batches => exact beginBuild (h.follow trivial)
  | update restart =>
    exact beginBuild ((h.follow (e := .takeUpdate restart) trivial).congr rfl rfl)

theorem turn (h : Follows s t cwd heard w) (turn : Turn x w more w') :
    Follows s t cwd (heard ++ more) w' := by
  cases turn with
  | report tree e => exact h.reload tree e
  | look | edit | wait =>
    rw [List.append_nil]
    exact h.congr rfl rfl
  | observe configFolder observation => simpa using h.observe configFolder observation
  | change now path => simpa using h.change now path
  | endBurst now => simpa using h.endBurst now
  | complete completed => simpa using h.completeProcess completed
  | take taken => simpa using h.take? taken

/-- Whatever happens, the session follows the loop. -/
theorem turns (h : Follows s t cwd heard w) (turns : Turns x w more w') :
    Follows s t cwd (heard ++ more) w' := by
  induction turns with
  | refl => rwa [List.append_nil]
  | tail _ last ih =>
    rw [← List.append_assoc]
    exact ih.turn last

end Follows

/-- Once its watchers run, a session is where the loop begins. -/
theorem follows_start {ledger : Ledger σ} (started : Watching.start s x ledger = .ok w) :
    Follows s (x.tree (x.takeIncidents ledger.state).2) x.cwd [] w := by
  simp only [Watching.start, bind_eq_ok_iff] at started
  obtain ⟨_, -, _, -, same⟩ := started
  cases same
  exact ⟨rfl, [], _, .refl _, .refl _⟩

end Watching

end AssetWatch
