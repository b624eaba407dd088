import Mathlib.Data.List.Lex
import Manuscript.Table

/-!
# The order of texts

Texts are compared character by character, and that is the order of their UTF-8 bytes
(`lt_iff_comesBefore`): of two characters, the one that comes first has the bytes that come first,
and these differ before either of them ends (`lex_utf8EncodeChar_append`).

Taking the same end off two texts keeps their order only if neither begins with the other
(`lt_or_exists_of_append_lt`).
-/

namespace Manuscript.Text

/-! ### Bytes -/

/-- The bytes of a text. -/
def bytes (s : String) : List UInt8 :=
  s.toUTF8.data.toList

/-- One text comes before the other in the order of their bytes. -/
def ComesBefore (s t : String) : Prop :=
  List.Lex (· < ·) (bytes s) (bytes t)

theorem bytes_eq_flatMap (s : String) : bytes s = s.toList.flatMap String.utf8EncodeChar := by
  conv_lhs => rw [← String.ofList_toList (s := s)]
  exact List.toList_data_toByteArray

/-- The bytes of different characters differ before those of either end. -/
theorem lex_utf8EncodeChar_append {c d : Char} (h : c < d) (xs ys : List UInt8) :
    List.Lex (· < ·) (String.utf8EncodeChar c ++ xs) (String.utf8EncodeChar d ++ ys) := by
  have hlt : c.val.toNat < d.val.toNat := h
  have hlast : d.val.toNat < 0x110000 := by
    have hvalid := d.valid
    grind
  -- the first byte says how many there are, and each holds six bits of the rest
  fun_cases String.utf8EncodeChar c <;> fun_cases String.utf8EncodeChar d
  all_goals
    simp only [List.cons_append, List.nil_append, List.cons_lex_cons_iff, UInt8.lt_iff_toNat_lt,
      ← UInt8.toNat_inj, UInt8.toNat_ofNat']
    simp (disch := omega) only [Nat.mod_eq_of_lt]
    omega

theorem lex_flatMap_utf8EncodeChar {cs ds : List Char} (h : List.Lex (· < ·) cs ds) :
    List.Lex (· < ·) (cs.flatMap String.utf8EncodeChar) (ds.flatMap String.utf8EncodeChar) := by
  induction h with
  | @nil d ds =>
    obtain ⟨b, bs, hbytes⟩ := List.exists_cons_of_ne_nil (String.utf8EncodeChar_ne_nil (c := d))
    rw [List.flatMap_cons, hbytes]
    exact .nil
  | @cons c cs ds hcs ih => exact .append_left _ ih _
  | rel hcd => exact lex_utf8EncodeChar_append hcd _ _

theorem comesBefore_of_lt {s t : String} (h : s < t) : ComesBefore s t := by
  rw [ComesBefore, bytes_eq_flatMap, bytes_eq_flatMap]
  exact lex_flatMap_utf8EncodeChar h

/-- **Texts are ordered as their bytes are.** -/
theorem lt_iff_comesBefore {s t : String} : s < t ↔ ComesBefore s t := by
  refine ⟨comesBefore_of_lt, fun h ↦ Classical.byContradiction fun hnot ↦ ?_⟩
  rw [ComesBefore] at h
  rcases eq_or_ne s t with rfl | hne
  · exact asymm h h
  · exact asymm h (comesBefore_of_lt (Table.lt_of_not_lt_of_ne hnot hne))

/-! ### Texts with the same end -/

theorem lex_or_exists_of_lex_append {xs ys last : List Char}
    (h : List.Lex (· < ·) (xs ++ last) (ys ++ last)) :
    List.Lex (· < ·) xs ys ∨ ∃ more, xs = ys ++ more := by
  induction xs generalizing ys with
  | nil =>
    rcases ys with - | ⟨y, ys⟩
    · exact .inr ⟨[], rfl⟩
    · exact .inl .nil
  | cons x xs ih =>
    rcases ys with - | ⟨y, ys⟩
    · exact .inr ⟨x :: xs, rfl⟩
    · rcases List.cons_lex_cons_iff.1 h with hxy | ⟨rfl, hrest⟩
      · exact .inl (.rel hxy)
      · rcases ih hrest with hlex | ⟨more, rfl⟩
        · exact .inl (.cons hlex)
        · exact .inr ⟨more, rfl⟩

theorem lex_append_left_iff {xs ys : List Char} (start : List Char) :
    List.Lex (· < ·) (start ++ xs) (start ++ ys) ↔ List.Lex (· < ·) xs ys := by
  induction start with
  | nil => rfl
  | cons c start ih => rw [List.cons_append, List.cons_append, List.lex_cons_iff, ih]

theorem append_lt_append_left_iff (s t u : String) : s ++ t < s ++ u ↔ t < u := by
  show List.Lex (· < ·) (s ++ t).toList (s ++ u).toList ↔ _
  rw [String.toList_append, String.toList_append]
  exact lex_append_left_iff s.toList

/-- Two texts with the same end are in the order of what is before it, unless one begins with the
other. -/
theorem lt_or_exists_of_append_lt {s t ending : String} (h : s ++ ending < t ++ ending) :
    s < t ∨ ∃ more, s = t ++ more ∧ more ++ ending < ending := by
  have hlex : List.Lex (· < ·) (s ++ ending).toList (t ++ ending).toList := h
  rw [String.toList_append, String.toList_append] at hlex
  rcases lex_or_exists_of_lex_append hlex with hlex | ⟨more, hmore⟩
  · exact .inl hlex
  · have hs : s = t ++ String.ofList more := by
      rw [← String.toList_inj, String.toList_append, String.toList_ofList, hmore]
    rw [hs, String.append_assoc, append_lt_append_left_iff] at h
    exact .inr ⟨_, hs, h⟩

end Manuscript.Text
