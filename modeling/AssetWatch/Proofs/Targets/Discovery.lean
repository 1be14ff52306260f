import AssetWatch.Targets.Discovery

/-!
# Discovery over lists of categories

The entrypoints of several categories are found category by category. Either all of them can be
discovered, or the first that cannot decides the error and nothing is found.
-/

namespace AssetWatch.Targets

open Host (Tree Place)

variable {tree : Tree} {cwd : Place} {root folder : Path} {targets : Targets}
  {name : String} {names : List String}

def CanDiscover (tree : Tree) (cwd : Place) (root : Path) (targets : Targets) (name : String) :
    Prop :=
  ∃ found, discoverAll tree cwd root targets [name] = .ok found

theorem discoverAll_singleton (configured : targets.entrypointFolders.get? name = some folder) :
    discoverAll tree cwd root targets [name] = discover tree cwd root name folder := by
  simp only [discoverAll, configured]
  cases discover tree cwd root name folder with
  | error e => rfl
  | ok found => exact congrArg Except.ok (List.append_nil found)

theorem discoverAll_cons_of_ok {found : List Entrypoint}
    (h : discoverAll tree cwd root targets [name] = .ok found) :
    discoverAll tree cwd root targets (name :: names) =
      (discoverAll tree cwd root targets names).map (found ++ ·) := by
  rw [discoverAll] at h ⊢
  split at h
  · cases h
  · rename_i folder hfolder
    cases hd : discover tree cwd root name folder with
    | error e => simp [hd, bind, Except.bind] at h
    | ok here =>
      obtain rfl : here = found := by
        simpa [hd, discoverAll, bind, Except.bind, pure, Except.pure] using h
      cases discoverAll tree cwd root targets names <;> rfl

theorem discoverAll_cons_of_error {error : DiscoveryError}
    (h : discoverAll tree cwd root targets [name] = .error error) :
    discoverAll tree cwd root targets (name :: names) = .error error := by
  rw [discoverAll] at h ⊢
  split at h
  · exact h
  · rename_i folder hfolder
    cases hd : discover tree cwd root name folder with
    | error e => simpa [hd, bind, Except.bind] using h
    | ok here => simp [hd, discoverAll, bind, Except.bind, pure, Except.pure] at h

/-- Categories that can be discovered one by one are discovered together. -/
theorem exists_discoverAll (h : ∀ name ∈ names, CanDiscover tree cwd root targets name) :
    ∃ all, discoverAll tree cwd root targets names = .ok all ∧
      ∀ name ∈ names, ∀ found, discoverAll tree cwd root targets [name] = .ok found →
        found ⊆ all := by
  induction names with
  | nil => exact ⟨[], rfl, by simp⟩
  | cons first names ih =>
    obtain ⟨⟨here, hhere⟩, hrest⟩ := List.forall_mem_cons.1 h
    obtain ⟨all, hall, hsub⟩ := ih hrest
    refine ⟨here ++ all, by rw [discoverAll_cons_of_ok hhere, hall]; rfl, ?_⟩
    intro name hname found hfound
    rcases List.mem_cons.1 hname with rfl | hname
    · cases hhere.symm.trans hfound
      exact List.subset_append_left ..
    · exact List.subset_append_of_subset_right _ (hsub name hname found hfound)

/-- The first category that cannot be discovered decides the error. -/
theorem exists_first_error (h : ∃ name ∈ names, ¬CanDiscover tree cwd root targets name) :
    ∃ before name after error, names = before ++ name :: after ∧
      (∀ earlier ∈ before, CanDiscover tree cwd root targets earlier) ∧
      discoverAll tree cwd root targets [name] = .error error ∧
      discoverAll tree cwd root targets names = .error error := by
  induction names with
  | nil => simp at h
  | cons first names ih =>
    cases hfirst : discoverAll tree cwd root targets [first] with
    | error e => exact ⟨[], first, names, e, rfl, by simp, hfirst, discoverAll_cons_of_error hfirst⟩
    | ok here =>
      have hrest : ∃ name ∈ names, ¬CanDiscover tree cwd root targets name := by
        obtain ⟨name, hname, hnot⟩ := h
        rcases List.mem_cons.1 hname with rfl | hname
        · exact absurd ⟨here, hfirst⟩ hnot
        · exact ⟨name, hname, hnot⟩
      obtain ⟨before, name, after, error, rfl, hbefore, hname, hall⟩ := ih hrest
      refine ⟨first :: before, name, after, error, rfl, ?_, hname, ?_⟩
      · exact List.forall_mem_cons.2 ⟨⟨here, hfirst⟩, hbefore⟩
      · rw [discoverAll_cons_of_ok hfirst, hall]
        rfl

end AssetWatch.Targets
