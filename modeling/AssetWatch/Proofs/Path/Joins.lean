import AssetWatch.Proofs.Path.Components

/-!
# Paths joined to others

Joining is associative, so it does not matter whether a folder is first seen from its root or first
followed to a file. A relative path that is joined to a folder puts its components behind those of
the folder, so what is in a folder lies under it, however the two are spelled.
-/

namespace AssetWatch.Path

variable {base p q : Path} {s t : String}

/-! ## The text of a join -/

private theorem join_of_absolute (absolute : p.isAbsolute = true) : base.join p = p := by
  rw [join, if_pos absolute]

theorem join_of_relative (base : Path) (relative : p.isAbsolute = false) : base.join p =
    ⟨base.text ++ if base.text = "" ∨ base.chars.getLast? = some '/' then p.text else "/" ++ p.text⟩ := by
  rw [join, relative, if_neg Bool.false_ne_true]
  split <;> simp [String.append_assoc]

/-- Whatever is joined to a path from the top is a path from the top. -/
theorem isAbsolute_join (absolute : base.isAbsolute = true) : (base.join p).isAbsolute = true := by
  cases fromTop : p.isAbsolute with
  | true => rw [join_of_absolute fromTop, fromTop]
  | false =>
    rw [join_of_relative base fromTop, isAbsolute_append (given_of_isAbsolute absolute), absolute]

/-- A join ends as what is joined ends. -/
theorem getLast?_join (base : Path) (given : p.text ≠ "") :
    (base.join p).chars.getLast? = p.chars.getLast? := by
  have some : p.chars ≠ [] := mt String.toList_eq_nil_iff.1 given
  have behind (s : String) : (⟨s ++ p.text⟩ : Path).chars.getLast? = p.chars.getLast? := by
    rw [chars, String.toList_append]
    exact List.getLast?_append_of_ne_nil _ some
  unfold join
  split
  · rfl
  · split <;> exact behind _

theorem given_join (given : p.text ≠ "") : (base.join p).text ≠ "" := by
  intro empty
  have last := getLast?_join base given
  rw [chars, empty, String.toList_empty, List.getLast?_nil, eq_comm, List.getLast?_eq_none_iff] at last
  exact given (String.toList_eq_nil_iff.1 last)

theorem join_assoc (base p q : Path) : base.join (p.join q) = (base.join p).join q := by
  cases absolute : q.isAbsolute with
  | true => rw [join_of_absolute absolute, join_of_absolute absolute, join_of_absolute absolute]
  | false =>
    by_cases given : p.text = ""
    · obtain rfl : p = ⟨""⟩ := by cases p; exact congrArg Path.mk given
      have here : join ⟨""⟩ q = q := by
        rw [join_of_relative _ absolute, if_pos (.inl rfl), String.empty_append]
      rw [here, join_of_relative _ absolute, join_of_relative (p := ⟨""⟩) base rfl]
      split
      · rename_i ends
        rw [String.append_empty, join_of_relative _ absolute, if_pos ends]
      · rw [join_of_relative _ absolute, if_pos (.inr (by simp [chars])), String.append_empty,
          String.append_assoc]
    · rw [join_of_relative p absolute, join_append given, join_of_relative (base.join p) absolute,
        getLast?_join base given]
      simp only [given, given_join given, false_or]

/-! ## The components of a join -/

/-- What a relative path adds stands behind the components of the folder. -/
theorem components_join (given : base.text ≠ "") (relative : p.isAbsolute = false) :
    (base.join p).components =
      base.components ++ (pieces p.chars).filterMap Component.ofPiece? := by
  rw [join_of_relative base relative]
  split
  · rename_i ends
    obtain ⟨xs, hxs⟩ := List.getLast?_eq_some_iff.1 (ends.resolve_left given)
    have text : base.text = String.ofList xs ++ "/" := by
      rw [← String.toList_inj, String.toList_append, String.toList_ofList]
      exact hxs
    rw [text, components_separator_append, ← text]
    rfl
  · rw [← String.append_assoc, components_separator_append, components_append_separator given]
    rfl

/-- What is in a folder lies under it. -/
theorem startsWith_join (base : Path) (relative : p.isAbsolute = false) :
    (base.join p).startsWith base = true := by
  rw [startsWith_iff]
  by_cases given : base.text = ""
  · rw [components_eq_nil_iff.2 given]
    exact List.nil_prefix
  · rw [components_join given relative]
    exact List.prefix_append ..

/-! ## Names -/

private theorem not_mem_of_mem_pieces {x piece : List Char} (h : piece ∈ pieces x) :
    '/' ∉ piece := by
  induction x generalizing piece with
  | nil => simp_all [pieces]
  | cons c x ih =>
    unfold pieces at h
    split at h
    · rcases List.mem_cons.1 h with rfl | h
      · exact List.not_mem_nil
      · exact ih h
    · rename_i hc
      obtain ⟨first, more, hx⟩ := List.exists_cons_of_ne_nil (pieces_ne_nil x)
      rw [hx] at h ih
      rcases List.mem_cons.1 h with rfl | h
      · exact List.not_mem_cons_of_ne_of_not_mem (Ne.symm hc) (ih List.mem_cons_self)
      · exact ih (List.mem_cons_of_mem _ h)

private theorem exists_piece_of_name (h : .name s ∈ p.components) :
    ∃ piece ∈ pieces p.chars, Component.ofPiece? piece = some (.name s) := by
  cases absolute : p.isAbsolute with
  | true =>
    rw [components_of_absolute absolute] at h
    exact List.mem_filterMap.1 ((List.mem_cons.1 h).resolve_left nofun)
  | false =>
    obtain ⟨first, more, hp⟩ := List.exists_cons_of_ne_nil (pieces_ne_nil p.chars)
    rw [components_of_relative (by simp [absolute]) hp] at h
    rw [hp]
    split at h
    · obtain ⟨piece, hm, found⟩ := List.mem_filterMap.1 ((List.mem_cons.1 h).resolve_left nofun)
      exact ⟨piece, List.mem_cons_of_mem _ hm, found⟩
    · exact List.mem_filterMap.1 h

/-- The name of a file is no path from the top. -/
theorem isAbsolute_fileName (p : Path) : (⟨p.fileName⟩ : Path).isAbsolute = false := by
  have slashless : '/' ∉ p.fileName.toList := by
    rw [fileName, fileName?]
    split
    · rename_i text last
      obtain ⟨piece, hm, found⟩ := exists_piece_of_name (List.mem_of_getLast? last)
      obtain ⟨-, -, rfl⟩ := Component.ofPiece?_eq_name_iff.1 found
      rw [Option.getD_some, String.toList_ofList]
      exact not_mem_of_mem_pieces hm
    · simp
  exact Bool.eq_false_iff.2 (mt mem_chars_of_isAbsolute slashless)

end AssetWatch.Path
