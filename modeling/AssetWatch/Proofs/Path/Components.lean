import AssetWatch.Path
import Mathlib.Data.List.Infix

/-!
# Components of paths

Two spellings name the same path if they have the same components, and a path lies under a folder
if the folder's components are in front of its own. Pieces that are empty or `.` behind the front
are idle: they leave the components as they are.
-/

namespace AssetWatch

namespace Component

theorem key_injective : Function.Injective key := by
  rintro (_ | _ | _ | a) (_ | _ | _ | b) h
  case name.name =>
    have chars := congrArg String.toList h
    simp only [key, String.toList_append] at chars
    exact congrArg name (String.toList_inj.1 (List.append_cancel_left chars))
  all_goals first | rfl | exact absurd (congrArg (·.toList.head?) h) (by simp [key])

def IsIdle (piece : List Char) : Prop := piece = [] ∨ piece = ['.']

instance (piece : List Char) : Decidable (IsIdle piece) := inferInstanceAs (Decidable (_ ∨ _))

theorem ofPiece?_eq_none_iff {piece : List Char} : ofPiece? piece = none ↔ IsIdle piece := by
  unfold ofPiece? IsIdle
  split <;> simp_all
  split <;> simp

theorem ofPiece?_eq_name_iff {piece : List Char} {text : String} :
    ofPiece? piece = some (name text) ↔
      ¬IsIdle piece ∧ piece ≠ ['.', '.'] ∧ String.ofList piece = text := by
  unfold ofPiece? IsIdle
  split
  · simp_all
  · split <;> simp_all

private theorem ofPiece?_ne_root {piece : List Char} : ofPiece? piece ≠ some root := by
  unfold ofPiece?
  split
  · exact nofun
  · split <;> exact nofun

end Component

namespace Path

variable {p q r : Path} {x y : List Char} {s t : String}

/-! ## Pieces -/

theorem pieces_ne_nil (x : List Char) : pieces x ≠ [] := by
  cases x with
  | nil => simp [pieces]
  | cons c x =>
    unfold pieces
    split
    · simp
    · split <;> simp

theorem pieces_append_slash (x y : List Char) : pieces (x ++ '/' :: y) = pieces x ++ pieces y := by
  induction x with
  | nil => simp [pieces]
  | cons c x ih =>
    rw [List.cons_append, pieces, pieces, ih]
    split
    · rfl
    · obtain ⟨first, more, hx⟩ := List.exists_cons_of_ne_nil (pieces_ne_nil x)
      rw [hx]
      rfl

theorem pieces_of_not_mem (h : '/' ∉ x) : pieces x = [x] := by
  induction x with
  | nil => rfl
  | cons c x ih =>
    obtain ⟨hc, hx⟩ := not_or.1 (mt List.mem_cons.2 h)
    rw [pieces, if_neg (Ne.symm hc), ih hx]

/-- Texts without a separator, joined by separators, are the pieces again. -/
theorem pieces_intercalate {parts : List (List Char)} (some : parts ≠ [])
    (h : ∀ part ∈ parts, '/' ∉ part) : pieces (['/'].intercalate parts) = parts := by
  induction parts with
  | nil => exact absurd rfl some
  | cons first parts ih =>
    obtain ⟨hfirst, hrest⟩ := List.forall_mem_cons.1 h
    cases parts with
    | nil => rw [List.intercalate_singleton, pieces_of_not_mem hfirst]
    | cons second parts =>
      rw [List.intercalate_cons_cons, List.append_assoc, List.singleton_append,
        pieces_append_slash, pieces_of_not_mem hfirst, ih (List.cons_ne_nil _ _) hrest]
      rfl

/-- Every character but a separator is in some piece. -/
theorem exists_piece_of_mem {c : Char} (h : c ∈ x) (hc : c ≠ '/') :
    ∃ piece ∈ pieces x, c ∈ piece := by
  induction x with
  | nil => cases h
  | cons d x ih =>
    unfold pieces
    split
    · rename_i hd
      obtain ⟨piece, hp, hcp⟩ := ih ((List.mem_cons.1 h).resolve_left fun same => hc (same.trans hd))
      exact ⟨piece, List.mem_cons_of_mem _ hp, hcp⟩
    · obtain ⟨first, more, hx⟩ := List.exists_cons_of_ne_nil (pieces_ne_nil x)
      rw [hx] at ih ⊢
      rcases List.mem_cons.1 h with rfl | h
      · exact ⟨_, List.mem_cons_self, List.mem_cons_self⟩
      · obtain ⟨piece, hp, hcp⟩ := ih h
        rcases List.mem_cons.1 hp with rfl | hp
        · exact ⟨_, List.mem_cons_self, List.mem_cons_of_mem _ hcp⟩
        · exact ⟨piece, List.mem_cons_of_mem _ hp, hcp⟩

/-! ## Components -/

theorem mem_chars_of_isAbsolute (absolute : p.isAbsolute = true) : '/' ∈ p.chars :=
  List.mem_of_mem_head? (beq_iff_eq.1 absolute)

theorem given_of_isAbsolute (absolute : p.isAbsolute = true) : p.text ≠ "" := by
  rw [Ne, ← String.toList_eq_nil_iff]
  exact List.ne_nil_of_mem (mem_chars_of_isAbsolute absolute)

theorem components_of_absolute (absolute : p.isAbsolute = true) :
    p.components = .root :: (pieces p.chars).filterMap Component.ofPiece? := by
  obtain ⟨x, hx⟩ : ∃ x, p.chars = '/' :: x := by
    rw [isAbsolute] at absolute
    cases hp : p.chars with
    | nil => simp [hp] at absolute
    | cons c x => exact ⟨x, by simpa [hp] using absolute⟩
  rw [components, hx, pieces, if_pos rfl]
  dsimp only
  rw [if_pos absolute]
  rfl

theorem components_of_relative {first : List Char} {more : List (List Char)}
    (relative : p.isAbsolute ≠ true) (h : pieces p.chars = first :: more) :
    p.components = if first = ['.'] then .here :: more.filterMap Component.ofPiece?
      else (first :: more).filterMap Component.ofPiece? := by
  rw [components, h]
  dsimp only
  rw [if_neg relative]

/-- Only a path from the top has the root in front. -/
theorem components_eq_root_cons_iff {cs : List Component} : p.components = .root :: cs ↔
    p.isAbsolute = true ∧ (pieces p.chars).filterMap Component.ofPiece? = cs := by
  by_cases absolute : p.isAbsolute = true
  · rw [components_of_absolute absolute, List.cons.injEq]
    simp only [absolute, true_and]
  · refine iff_of_false (fun root => ?_) fun both => absolute both.1
    obtain ⟨first, more, hp⟩ := List.exists_cons_of_ne_nil (pieces_ne_nil p.chars)
    rw [components_of_relative absolute hp] at root
    split at root
    · cases root
    · have found : Component.root ∈ (first :: more).filterMap Component.ofPiece? :=
        root ▸ List.mem_cons_self
      obtain ⟨piece, -, h⟩ := List.mem_filterMap.1 found
      exact Component.ofPiece?_ne_root h

/-- The front of a relative path is one component, and what is not idle behind it the others. -/
theorem exists_components_of_relative (relative : p.isAbsolute = false) (given : p.text ≠ "") :
    ∃ front, p.components = front :: (pieces p.chars).tail.filterMap Component.ofPiece? := by
  obtain ⟨c, x, hp⟩ := List.exists_cons_of_ne_nil (mt String.toList_eq_nil_iff.1 given)
  have hc : c ≠ '/' := by
    rintro rfl
    rw [isAbsolute, chars, hp] at relative
    cases relative
  obtain ⟨first, more, hx⟩ := List.exists_cons_of_ne_nil (pieces_ne_nil x)
  have split : pieces p.chars = (c :: first) :: more := by rw [chars, hp, pieces, if_neg hc, hx]
  rw [components_of_relative (by simp [relative]) split, split, List.tail_cons]
  by_cases here : c :: first = ['.']
  · exact ⟨.here, if_pos here⟩
  · have front : Component.ofPiece? (c :: first) ≠ none :=
      mt Component.ofPiece?_eq_none_iff.1 (not_or.2 ⟨List.cons_ne_nil _ _, here⟩)
    obtain ⟨component, hf⟩ := Option.ne_none_iff_exists'.1 front
    exact ⟨component, by rw [if_neg here, List.filterMap_cons_some hf]⟩

theorem components_eq_nil_iff : p.components = [] ↔ p.text = "" := by
  refine ⟨fun empty => ?_, fun empty => ?_⟩
  · by_contra given
    cases absolute : p.isAbsolute with
    | true =>
      rw [components_of_absolute absolute] at empty
      cases empty
    | false =>
      obtain ⟨front, some⟩ := exists_components_of_relative absolute given
      cases some.symm.trans empty
  · have none : p.chars = [] := String.toList_eq_nil_iff.2 empty
    simp [components, isAbsolute, none, pieces, Component.ofPiece?]

/-! ## What a spelling asks for -/

/-- The path is looked up from the top, or in the search path. -/
def IsPlaced (p : Path) : Prop := p.isAbsolute = true ∨ '/' ∉ p.chars

def EndsIdle (pieces : List (List Char)) : Prop :=
  ∃ piece, pieces.getLast? = some piece ∧ Component.IsIdle piece

def AsksForDirectory (p : Path) : Prop := EndsIdle (pieces p.chars)

/-- The path is relative, with separators that only idle pieces stand behind. -/
def IsPadded (p : Path) : Prop :=
  p.isAbsolute = false ∧ '/' ∈ p.chars ∧ ∀ piece ∈ (pieces p.chars).tail, Component.IsIdle piece

instance (p : Path) : Decidable p.IsPlaced := inferInstanceAs (Decidable (_ ∨ _))

instance (p : Path) : Decidable p.IsPadded := inferInstanceAs (Decidable (_ ∧ _ ∧ _))

private theorem tail_pieces_ne_nil {x : List Char} (h : '/' ∈ x) : (pieces x).tail ≠ [] := by
  obtain ⟨before, behind, rfl⟩ := List.append_of_mem h
  rw [pieces_append_slash, List.tail_append_of_ne_nil (pieces_ne_nil before)]
  exact List.append_ne_nil_of_right_ne_nil _ (pieces_ne_nil behind)

theorem IsPadded.not_isPlaced (h : p.IsPadded) : ¬p.IsPlaced := by
  rintro (absolute | bare)
  · exact Bool.false_ne_true (h.1.symm.trans absolute)
  · exact bare h.2.1

theorem IsPadded.asksForDirectory (h : p.IsPadded) : p.AsksForDirectory := by
  obtain ⟨-, separated, idle⟩ := h
  have behind := tail_pieces_ne_nil separated
  refine ⟨(pieces p.chars).tail.getLast behind, ?_, idle _ (List.getLast_mem behind)⟩
  obtain ⟨first, more, hp⟩ := List.exists_cons_of_ne_nil (pieces_ne_nil p.chars)
  simp only [hp, List.tail_cons] at behind ⊢
  rw [List.getLast?_cons, List.getLast?_eq_some_getLast behind, Option.getD_some]

/-- A relative path has at most one component if it is a bare name, or padded. -/
theorem length_components_le_one_iff (relative : p.isAbsolute = false) :
    p.components.length ≤ 1 ↔ '/' ∉ p.chars ∨ p.IsPadded := by
  by_cases given : p.text = ""
  · have none : p.chars = [] := String.toList_eq_nil_iff.2 given
    simp [components_eq_nil_iff.2 given, none]
  · obtain ⟨front, components⟩ := exists_components_of_relative relative given
    rw [components, List.length_cons, Nat.succ_le_succ_iff, Nat.le_zero, List.length_eq_zero_iff,
      List.filterMap_eq_nil_iff]
    simp only [Component.ofPiece?_eq_none_iff]
    refine ⟨fun idle => ?_, ?_⟩
    · by_cases separated : '/' ∈ p.chars
      · exact .inr ⟨relative, separated, idle⟩
      · exact .inl separated
    · rintro (bare | padded)
      · rw [pieces_of_not_mem bare]
        exact nofun
      · exact padded.2.2

/-! ## The same path, and paths under others -/

theorem key_eq_iff : p.key = q.key ↔ p.components = q.components :=
  (List.map_injective_iff.2 Component.key_injective).eq_iff

theorem sameAs_iff : p.sameAs q = true ↔ p.components = q.components := beq_iff_eq

theorem startsWith_iff : p.startsWith q = true ↔ q.components <+: p.components :=
  List.isPrefixOf_iff_prefix

theorem startsWith_refl (p : Path) : p.startsWith p = true :=
  startsWith_iff.2 (List.prefix_refl _)

theorem startsWith_trans (h : p.startsWith q = true) (h' : q.startsWith r = true) :
    p.startsWith r = true :=
  startsWith_iff.2 ((startsWith_iff.1 h').trans (startsWith_iff.1 h))

/-! ## Separators at the end -/

theorem isAbsolute_append (given : s ≠ "") :
    (⟨s ++ t⟩ : Path).isAbsolute = (⟨s⟩ : Path).isAbsolute := by
  rw [isAbsolute, isAbsolute, chars, String.toList_append, List.head?_append_of_ne_nil]
  · rfl
  · exact mt String.toList_eq_nil_iff.1 given

theorem components_append_separator (given : s ≠ "") :
    (⟨s ++ "/"⟩ : Path).components = (⟨s⟩ : Path).components := by
  have chars : (⟨s ++ "/"⟩ : Path).chars = s.toList ++ '/' :: [] := String.toList_append
  obtain ⟨first, more, hs⟩ := List.exists_cons_of_ne_nil (pieces_ne_nil s.toList)
  have idle (xs : List (List Char)) : (xs ++ pieces []).filterMap Component.ofPiece? =
      xs.filterMap Component.ofPiece? := by
    rw [List.filterMap_append]
    exact List.append_nil _
  rw [components, components, isAbsolute_append given, chars, pieces_append_slash, Path.chars, hs,
    List.cons_append]
  dsimp only
  rw [← List.cons_append, idle, idle]

theorem components_separator_append (s t : String) : (⟨s ++ "/" ++ t⟩ : Path).components =
    (⟨s ++ "/"⟩ : Path).components ++ (pieces t.toList).filterMap Component.ofPiece? := by
  have front : s ++ "/" ≠ "" := by simp
  have whole : (⟨s ++ "/" ++ t⟩ : Path).chars = s.toList ++ '/' :: t.toList := by
    simp [chars, String.toList_append]
  have folder : (⟨s ++ "/"⟩ : Path).chars = s.toList ++ '/' :: [] := String.toList_append
  obtain ⟨first, more, hs⟩ := List.exists_cons_of_ne_nil (pieces_ne_nil s.toList)
  have behind (xs : List (List Char)) : (xs ++ pieces t.toList).filterMap Component.ofPiece? =
      (xs ++ pieces []).filterMap Component.ofPiece? ++
        (pieces t.toList).filterMap Component.ofPiece? := by
    rw [List.filterMap_append, List.filterMap_append]
    exact congrArg (· ++ _) (List.append_nil _).symm
  rw [components, components, isAbsolute_append front, whole, folder, pieces_append_slash,
    pieces_append_slash, hs, List.cons_append, List.cons_append]
  dsimp only
  rw [← List.cons_append, ← List.cons_append, behind, behind]
  split
  · rfl
  · split <;> rfl

/-! ## Idle pieces at the end -/

/-- The path with idle pieces put behind it. -/
def respelled (p : Path) : Nat → Path
  | 0 => p
  | n + 1 => ⟨(p.respelled n).text ++ "/."⟩

private theorem components_append_idle (given : p.text ≠ "") :
    (⟨p.text ++ "/."⟩ : Path).components = p.components := by
  have idle : (pieces ".".toList).filterMap Component.ofPiece? = [] := by decide
  have text : p.text ++ "/." = p.text ++ "/" ++ "." := by
    rw [String.append_assoc]
    rfl
  rw [text, components_separator_append, components_append_separator given, idle, List.append_nil]

private theorem given_respelled (given : p.text ≠ "") (n : Nat) : (p.respelled n).text ≠ "" := by
  cases n with
  | zero => exact given
  | succ n => simp [respelled]

theorem components_respelled (given : p.text ≠ "") (n : Nat) :
    (p.respelled n).components = p.components := by
  induction n with
  | zero => rfl
  | succ n ih => rw [respelled, components_append_idle (given_respelled given n), ih]

theorem utf8ByteSize_respelled (n : Nat) :
    (p.respelled n).text.utf8ByteSize = p.text.utf8ByteSize + 2 * n := by
  induction n with
  | zero => rfl
  | succ n ih =>
    rw [respelled, String.utf8ByteSize_append, ih]
    have two : "/.".utf8ByteSize = 2 := rfl
    omega

theorem join_append {base : Path} (given : p.text ≠ "") :
    base.join ⟨p.text ++ s⟩ = ⟨(base.join p).text ++ s⟩ := by
  unfold join
  rw [isAbsolute_append given]
  split
  · rfl
  · split <;> simp [String.append_assoc]

theorem join_respelled {base : Path} (given : p.text ≠ "") (n : Nat) :
    base.join (p.respelled n) = (base.join p).respelled n := by
  induction n with
  | zero => rfl
  | succ n ih => rw [respelled, join_append (given_respelled given n), ih, respelled]

end Path

end AssetWatch
