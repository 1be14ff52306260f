import AssetWatch.Proofs.Config.Validity

/-!
# Loading and loading again

A configuration that loads was read, parsed, fitted to the record and found valid; otherwise the
first of these that failed decides the error. What is passed on while the file is edited are the
configurations that load then, one for each report that names the file and is no removal.
-/

namespace AssetWatch

open Host (Fault)

namespace Config

/-- What loading a file comes to, by the stage that ends it. -/
inductive Loads (path : Path) : Except Fault String → Except LoadError Config → Prop
  | unreadable (fault : Fault) : Loads path (.error fault) (.error (.unreadable path fault))
  | malformed {content : String} (noDocument : Toml.parse content = none) :
      Loads path (.ok content) (.error .malformed)
  | misfit {content : String} {document : Data.Value} {fault : Schema.Fault}
      (parsed : Toml.parse content = some document) (misfits : decode document = .error fault) :
      Loads path (.ok content) (.error (.misfit fault))
  | invalid {content : String} {document : Data.Value} {c : Config} {faults : List ConfigFault}
      (parsed : Toml.parse content = some document) (fits : decode document = .ok c)
      (refused : c.validate = .error faults) : Loads path (.ok content) (.error (.invalid faults))
  | loaded {content : String} {document : Data.Value} {c : Config}
      (parsed : Toml.parse content = some document) (fits : decode document = .ok c)
      (valid : c.validate = .ok ()) : Loads path (.ok content) (.ok c)

variable {path : Path} {reading : Except Fault String} {result : Except LoadError Config}

theorem ofDocument_eq (document : Data.Value) : ofDocument document =
    match decode document with
    | .error fault => .error (.misfit fault)
    | .ok c =>
      match c.validate with
      | .error faults => .error (.invalid faults)
      | .ok _ => .ok c := by
  unfold ofDocument
  cases decode document with
  | error fault => rfl
  | ok c =>
    change (c.validate.mapError LoadError.invalid >>= fun _ => .ok c) =
      match c.validate with
      | .error faults => .error (.invalid faults)
      | .ok _ => .ok c
    cases c.validate <;> rfl

theorem loads_ofReading (path : Path) (reading : Except Fault String) :
    Loads path reading (ofReading path reading) := by
  cases reading with
  | error fault => exact .unreadable fault
  | ok content =>
    rw [ofReading, parse]
    cases parsed : Toml.parse content with
    | none => exact .malformed parsed
    | some document =>
      dsimp only
      rw [ofDocument_eq]
      cases fits : decode document with
      | error fault => exact .misfit parsed fits
      | ok c =>
        dsimp only
        cases valid : c.validate with
        | error faults => exact .invalid parsed fits valid
        | ok _ => exact .loaded parsed fits valid

/-- Loading comes to one result. -/
theorem ofReading_eq_iff : ofReading path reading = result ↔ Loads path reading result := by
  constructor
  · rintro rfl
    exact loads_ofReading path reading
  · intro h
    cases h with
    | unreadable => rfl
    | malformed noDocument => rw [ofReading, parse, noDocument]
    | misfit parsed misfits => simp only [ofReading, parse, parsed, ofDocument_eq, misfits]
    | invalid parsed fits refused => simp only [ofReading, parse, parsed, ofDocument_eq, fits, refused]
    | loaded parsed fits valid => simp only [ofReading, parse, parsed, ofDocument_eq, fits, valid]

end Config

namespace ConfigWatch

variable {w : ConfigWatch} {e : FileEvent} {reading : Except Fault String} {c : Config}
  {reports : List (FileEvent × Except Fault String)} {passed : List Config}

def Names (w : ConfigWatch) (e : FileEvent) : Prop :=
  (e.kind = .create ∨ e.kind = .modify) ∧ ∃ p ∈ e.paths, p.fileName? = w.path.fileName?

theorem concerns_iff : w.concerns e = true ↔ w.Names e := by
  have edit : e.kind.isEdit = true ↔ e.kind = .create ∨ e.kind = .modify := by
    cases e.kind <;> decide
  rw [concerns, Bool.and_eq_true, edit, List.any_eq_true, and_comm, Names]
  simp only [beq_iff_eq]

/-- The configurations that are passed on over some reports, each with what reading the file gives
then, in the order of the reports. -/
inductive PassesOn (w : ConfigWatch) : List (FileEvent × Except Fault String) → List Config → Prop
  | none : PassesOn w [] []
  | other {e : FileEvent} {reading : Except Fault String}
      {reports : List (FileEvent × Except Fault String)} {passed : List Config}
      (other : ¬w.Names e) (rest : PassesOn w reports passed) :
      PassesOn w ((e, reading) :: reports) passed
  | refused {e : FileEvent} {reading : Except Fault String} {error : LoadError}
      {reports : List (FileEvent × Except Fault String)} {passed : List Config}
      (names : w.Names e) (fails : Config.Loads w.path reading (.error error))
      (rest : PassesOn w reports passed) : PassesOn w ((e, reading) :: reports) passed
  | loaded {e : FileEvent} {reading : Except Fault String} {c : Config}
      {reports : List (FileEvent × Except Fault String)} {passed : List Config}
      (names : w.Names e) (loads : Config.Loads w.path reading (.ok c))
      (rest : PassesOn w reports passed) : PassesOn w ((e, reading) :: reports) (c :: passed)

theorem forward_eq_some_iff :
    w.forward e reading = some c ↔ w.Names e ∧ Config.Loads w.path reading (.ok c) := by
  rw [← concerns_iff, ← Config.ofReading_eq_iff, forward]
  split
  · rename_i concerned
    cases Config.ofReading w.path reading <;> simp [concerned, Except.toOption]
  · rename_i other
    simp [other]

theorem forward_eq_none_iff : w.forward e reading = none ↔
    ¬w.Names e ∨ ∃ error, Config.Loads w.path reading (.error error) := by
  simp only [← concerns_iff, ← Config.ofReading_eq_iff, forward]
  split
  · rename_i concerned
    cases Config.ofReading w.path reading <;> simp [concerned, Except.toOption]
  · rename_i other
    simp [other]

theorem forwarded_cons : w.forwarded ((e, reading) :: reports) =
    (w.forward e reading).toList ++ w.forwarded reports := by
  rw [forwarded, List.filterMap_cons]
  dsimp only
  cases w.forward e reading <;> rfl

private theorem passesOn_forwarded (w : ConfigWatch)
    (reports : List (FileEvent × Except Fault String)) :
    w.PassesOn reports (w.forwarded reports) := by
  induction reports with
  | nil => exact .none
  | cons report reports ih =>
    obtain ⟨e, reading⟩ := report
    rw [forwarded_cons]
    cases h : w.forward e reading with
    | none =>
      by_cases names : w.Names e
      · obtain ⟨error, fails⟩ := (forward_eq_none_iff.1 h).resolve_left (not_not_intro names)
        exact .refused names fails ih
      · exact .other names ih
    | some c =>
      obtain ⟨names, loads⟩ := forward_eq_some_iff.1 h
      exact .loaded names loads ih

/-- What is passed on is settled by the reports and by what the file has at each of them. -/
theorem passesOn_iff : w.PassesOn reports passed ↔ w.forwarded reports = passed := by
  constructor
  · intro h
    induction h with
    | none => rfl
    | other other _ ih =>
      rw [forwarded_cons, forward_eq_none_iff.2 (.inl other), ih]
      rfl
    | refused names fails _ ih =>
      rw [forwarded_cons, forward_eq_none_iff.2 (.inr ⟨_, fails⟩), ih]
      rfl
    | loaded names loads _ ih =>
      rw [forwarded_cons, forward_eq_some_iff.2 ⟨names, loads⟩, ih]
      rfl
  · rintro rfl
    exact passesOn_forwarded w reports

end ConfigWatch

end AssetWatch
