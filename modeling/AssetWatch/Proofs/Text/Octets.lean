import AssetWatch.Text.Octets
import Mathlib.Data.List.Basic

/-!
# Texts as octets

The octets of a text are those of its UTF-8 form, and are read as the same text again. A character
below 128 is its own octet, and all octets of any other are above that: a separator is found among
the octets of a text where it is found in the text.
-/

namespace AssetWatch.Octets

variable {b : UInt8} {c d : Char} {s t : String}

/-! ## Bytes -/

private theorem foldl_loop_eq {β : Type} (f : β → UInt8 → β) (bytes : ByteArray) :
    ∀ (count start : Nat) (acc : β), start + count ≤ bytes.size →
      ByteArray.foldlM.loop (m := Id) (fun acc b => pure (f acc b)) bytes bytes.size
        (Nat.le_refl _) count start acc = ((bytes.data.toList.drop start).take count).foldl f acc := by
  intro count
  induction count with
  | zero =>
    intro start acc _
    rw [ByteArray.foldlM.loop]
    split <;> rfl
  | succ count ih =>
    intro start acc inside
    have here : start < bytes.data.toList.length := by
      rw [Array.length_toList]
      exact Nat.lt_of_lt_of_le (by omega) inside
    rw [ByteArray.foldlM.loop, dif_pos (by omega), List.drop_eq_getElem_cons here, List.take_succ_cons,
      List.foldl_cons, ← ih _ _ (by omega)]
    rfl

private theorem foldl_eq {β : Type} (f : β → UInt8 → β) (start : β) (bytes : ByteArray) :
    bytes.foldl f start = bytes.data.toList.foldl f start := by
  have all : bytes.data.toList.length ≤ bytes.size := Nat.le_of_eq Array.length_toList
  have whole := foldl_loop_eq f bytes bytes.size 0 start (by omega)
  rw [List.drop_zero, List.take_of_length_le all] at whole
  rw [ByteArray.foldl, ByteArray.foldlM]
  simp only [Nat.le_refl, dite_true]
  exact whole

private theorem toList_ofBytes (bytes : ByteArray) :
    (ofBytes bytes).toList = bytes.data.toList.map charOf := by
  have pushed (bs : List UInt8) (s : String) :
      (bs.foldl (fun s b => s.push (charOf b)) s).toList = s.toList ++ bs.map charOf := by
    induction bs generalizing s with
    | nil => simp
    | cons b bs ih => simp [ih]
  rw [ofBytes, foldl_eq, pushed, String.toList_empty, List.nil_append]

private theorem toNat_charOf (b : UInt8) : (charOf b).toNat = b.toNat := by
  have small := b.toNat_lt
  rw [charOf, Char.ofNat, dif_pos (.inl (by omega))]
  rfl

theorem toList_bytes (s : Octets) :
    (bytes s).data.toList = s.toList.map fun c => c.toNat.toUInt8 := by
  have pushed (cs : List Char) (acc : ByteArray) :
      (cs.foldl (fun acc c => acc.push c.toNat.toUInt8) acc).data.toList =
        acc.data.toList ++ cs.map fun c => c.toNat.toUInt8 := by
    induction cs generalizing acc with
    | nil => simp
    | cons c cs ih => simp [ih]
  rw [bytes, String.foldl_eq_foldl_toList, pushed]
  rfl

private theorem bytes_ofBytes (given : ByteArray) : bytes (ofBytes given) = given := by
  have same : (fun c : Char => c.toNat.toUInt8) ∘ charOf = id := by
    funext b
    simp [toNat_charOf]
  refine ByteArray.ext (Array.toList_inj.1 ?_)
  rw [toList_bytes, toList_ofBytes, List.map_map, same, List.map_id]

/-! ## The octets of a character -/

def ofChar (c : Char) : List Char := (String.utf8EncodeChar c).map charOf

private theorem ofChar_of_ascii (ascii : c.toNat < 128) : ofChar c = [c] := by
  have small : c.val.toNat ≤ 127 := Nat.le_of_lt_succ ascii
  have same : charOf (UInt8.ofNat c.val.toNat) = c := by
    refine Char.toNat_inj.1 ?_
    rw [toNat_charOf, UInt8.toNat_ofNat']
    exact Nat.mod_eq_of_lt (by omega)
  rw [ofChar, String.utf8EncodeChar, if_pos small, List.map_singleton, same]

private theorem ofChar_ne_nil (c : Char) : ofChar c ≠ [] := by
  rw [ofChar, String.utf8EncodeChar]
  split_ifs <;> exact List.cons_ne_nil _ _

private theorem le_of_mem_ofChar (other : 128 ≤ c.toNat) (h : d ∈ ofChar c) : 128 ≤ d.toNat := by
  have large : ¬c.val.toNat ≤ 127 := Nat.not_le.2 other
  have marked (n : Nat) (low : 128 ≤ n % 256) : 128 ≤ (charOf (UInt8.ofNat n)).toNat := by
    rwa [toNat_charOf, UInt8.toNat_ofNat']
  rw [ofChar, String.utf8EncodeChar, if_neg large] at h
  split_ifs at h <;>
    simp only [List.map_cons, List.map_nil, List.mem_cons, List.not_mem_nil, or_false] at h <;>
    rcases h with rfl | rfl | rfl | rfl <;> exact marked _ (by omega)

/-! ## Texts -/

private theorem toList_ofText (s : String) : (ofText s).toList = s.toList.flatMap ofChar := by
  have bytes : s.toUTF8.data.toList = s.toList.flatMap String.utf8EncodeChar := by
    rw [String.toUTF8_eq_toByteArray, ← String.ofList_toList (s := s), String.toByteArray_ofList,
      String.toList_ofList]
    exact List.toList_data_toByteArray
  rw [ofText, toList_ofBytes, bytes, List.map_flatMap]
  rfl

theorem ofText_append (s t : String) : ofText (s ++ t) = ofText s ++ ofText t := by
  rw [← String.toList_inj, String.toList_append, toList_ofText, toList_ofText, toList_ofText,
    String.toList_append, List.flatMap_append]

/-- A text of small characters is its own octets. -/
theorem ofText_of_ascii (ascii : ∀ c ∈ s.toList, c.toNat < 128) : ofText s = s := by
  have same : s.toList.flatMap ofChar = s.toList.flatMap fun c => [c] :=
    List.flatMap_congr fun c h => ofChar_of_ascii (ascii c h)
  rw [← String.toList_inj, toList_ofText, same, List.flatMap_singleton']

/-- Where all octets are small, all characters are. -/
theorem ascii_of_ofText (small : ∀ d ∈ (ofText s).toList, d.toNat < 128) :
    ∀ c ∈ s.toList, c.toNat < 128 := by
  intro c hc
  obtain ⟨d, hd⟩ := List.exists_mem_of_ne_nil _ (ofChar_ne_nil c)
  refine Nat.lt_of_not_le fun other => ?_
  have below := small d (toList_ofText s ▸ List.mem_flatMap.2 ⟨c, hc, hd⟩)
  exact absurd (le_of_mem_ofChar other hd) (Nat.not_le.2 below)

/-- A small character is among the octets of a text if it is in the text. -/
theorem mem_ofText_iff (ascii : c.toNat < 128) : c ∈ (ofText s).toList ↔ c ∈ s.toList := by
  rw [toList_ofText, List.mem_flatMap]
  constructor
  · rintro ⟨d, hd, hc⟩
    by_cases small : d.toNat < 128
    · rw [ofChar_of_ascii small, List.mem_singleton] at hc
      exact hc ▸ hd
    · exact absurd (le_of_mem_ofChar (Nat.not_lt.1 small) hc) (Nat.not_le.2 ascii)
  · exact fun h => ⟨c, h, by rw [ofChar_of_ascii ascii]; exact List.mem_singleton_self c⟩

/-- The octets of a text are read as the text. -/
@[simp]
theorem text_ofText (s : String) : text (ofText s) = s := by
  unfold text
  split
  · rename_i small
    refine ofText_of_ascii (ascii_of_ofText fun d hd => ?_)
    exact of_decide_eq_true (List.all_eq_true.1 small d hd)
  · have read : String.fromUTF8? s.toUTF8 = some s := by
      rw [String.fromUTF8?, String.toUTF8_eq_toByteArray, dif_pos s.isValidUTF8]
      rfl
    simp only [ofText, bytes_ofBytes, read, Option.getD_some]

end AssetWatch.Octets
