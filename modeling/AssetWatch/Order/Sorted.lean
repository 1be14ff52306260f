/-!
# Collections in increasing order of a key

A `Sorted key` is a list whose keys strictly increase, so two collections with the same
members are the same list. Inserting an element whose key is already present changes
nothing: the element that came first stays, with its own spelling.
-/

namespace AssetWatch

/-- Elements in strictly increasing order of their keys. -/
structure Sorted {α κ : Type} [LT κ] (key : α → κ) where
  toList : List α
  increasing : toList.Pairwise (fun a b => key a < key b)

namespace Sorted

variable {α κ : Type} [LT κ] [DecidableLT κ] {key : α → κ}

/-- Puts an element in front of the first larger one, unless its key is present. -/
def place (key : α → κ) (a : α) : List α → List α
  | [] => [a]
  | b :: rest =>
    if key a < key b then a :: b :: rest
    else if key b < key a then b :: place key a rest
    else b :: rest

theorem mem_place {a x : α} {xs : List α} (h : x ∈ place key a xs) : x = a ∨ x ∈ xs := by
  induction xs with
  | nil => simpa [place] using h
  | cons b rest ih =>
    unfold place at h
    split at h
    · simpa using h
    · split at h
      · rcases List.mem_cons.1 h with rfl | h
        · exact .inr (List.mem_cons_self ..)
        · rcases ih h with rfl | h
          · exact .inl rfl
          · exact .inr (List.mem_cons_of_mem _ h)
      · exact .inr h

variable [Trans (α := κ) (· < ·) (· < ·) (· < ·)]

theorem increasing_place (a : α) {xs : List α}
    (h : xs.Pairwise (fun x y => key x < key y)) :
    (place key a xs).Pairwise (fun x y => key x < key y) := by
  induction xs with
  | nil => simp [place]
  | cons b rest ih =>
    obtain ⟨hb, hrest⟩ := List.pairwise_cons.1 h
    unfold place
    split
    · rename_i hab
      refine List.pairwise_cons.2 ⟨fun x hx => ?_, h⟩
      rcases List.mem_cons.1 hx with rfl | hx
      · exact hab
      · exact Trans.trans hab (hb x hx)
    · split
      · rename_i hba
        refine List.pairwise_cons.2 ⟨fun x hx => ?_, ih hrest⟩
        rcases mem_place hx with rfl | hx
        · exact hba
        · exact hb x hx
      · exact h

def empty : Sorted key := ⟨[], List.Pairwise.nil⟩

instance : Inhabited (Sorted key) := ⟨empty⟩

def insert (a : α) (s : Sorted key) : Sorted key :=
  ⟨place key a s.toList, increasing_place a s.increasing⟩

/-- Inserts from the front of the list on. -/
def insertMany (xs : List α) (s : Sorted key) : Sorted key :=
  xs.foldl (fun s a => s.insert a) s

def ofList (xs : List α) : Sorted key := empty.insertMany xs

/-- Everything of both; where keys meet, the left element stays. -/
def union (s t : Sorted key) : Sorted key := s.insertMany t.toList

def isEmpty (s : Sorted key) : Bool := s.toList.isEmpty

def size (s : Sorted key) : Nat := s.toList.length

omit [DecidableLT κ] [Trans (α := κ) (· < ·) (· < ·) (· < ·)] in
theorem ext {s t : Sorted key} (h : s.toList = t.toList) : s = t := by
  cases s; cases t; cases h; rfl

end Sorted

/-- The order of texts is transitive by itself, not as a case of other orders. -/
instance (priority := high) transLtString : Trans (α := String) (· < ·) (· < ·) (· < ·) :=
  ⟨String.lt_trans⟩

/-- A map from names, in byte order of the names. -/
abbrev NameMap (β : Type) := Sorted (fun entry : String × β => entry.1)

/-- A set of names, in byte order. -/
abbrev NameSet := Sorted (fun name : String => name)

namespace NameMap

variable {β γ : Type}

def keys (m : NameMap β) : List String := m.toList.map (·.1)

def get? (m : NameMap β) (name : String) : Option β := m.toList.lookup name

def contains (m : NameMap β) (name : String) : Bool := (m.get? name).isSome

end NameMap

end AssetWatch
