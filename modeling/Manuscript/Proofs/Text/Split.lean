import Mathlib.Data.List.Infix
import Manuscript.Text.Split

/-!
# Cutting and putting together

What is cut at a separator can be put together again, and what was put together is cut at the same
places, provided that the separator does not occur too early. For a separator of one character that
is a fact about the part before it (`splitOnce_eq_some_iff`, `fields_intercalate`). A longer one may
also begin in the part before it and go on into the separator itself, so there it must not occur in
that part with all but the last character of the separator behind it (`cutAt_append`).
-/

namespace Manuscript.Text

/-! ### A prefix -/

theorem afterPrefix?_append (pre s : String) : afterPrefix? pre (pre ++ s) = some s := by
  have hprefix : pre.toList.isPrefixOf? (pre.toList ++ s.toList) = some s.toList :=
    List.isPrefixOf?_eq_some_iff_append_eq.2 rfl
  rw [afterPrefix?, String.toList_append, hprefix, Option.map_some, String.ofList_toList]

/-! ### The first occurrence of a pattern -/

/-- A text is cut exactly where the pattern occurs in it. -/
theorem cutAt_eq_none_iff {pat cs : List Char} : cutAt pat cs = none ↔ ¬ pat <:+: cs := by
  induction cs with
  | nil =>
    rw [cutAt, List.infix_nil]
    rcases pat with - | ⟨p, pat⟩ <;> simp
  | cons c cs ih =>
    rw [List.infix_cons_iff, not_or, ← ih, cutAt]
    cases hprefix : pat.isPrefixOf? (c :: cs) with
    | some rest =>
      have hpre : pat <+: c :: cs := ⟨rest, List.isPrefixOf?_eq_some_iff_append_eq.1 hprefix⟩
      simp [hpre]
    | none =>
      have hpre : ¬ pat <+: c :: cs := by
        rintro ⟨rest, hrest⟩
        rw [List.isPrefixOf?_eq_some_iff_append_eq.2 hrest] at hprefix
        cases hprefix
      simp [hpre]

/-- A text is cut at a pattern that does not begin to occur earlier. -/
theorem cutAt_append {pat xs : List Char} (hpat : pat ≠ []) (h : ¬ pat <:+: xs ++ pat.dropLast)
    (ys : List Char) : cutAt pat (xs ++ (pat ++ ys)) = some (xs, ys) := by
  induction xs with
  | nil =>
    obtain ⟨p, ps, rfl⟩ := List.exists_cons_of_ne_nil hpat
    have hprefix : (p :: ps).isPrefixOf? (p :: (ps ++ ys)) = some ys :=
      List.isPrefixOf?_eq_some_iff_append_eq.2 rfl
    rw [List.nil_append, List.cons_append, cutAt, hprefix]
  | cons x xs ih =>
    rw [List.cons_append, List.infix_cons_iff, not_or] at h
    obtain ⟨hhere, hlater⟩ := h
    have hprefix : pat.isPrefixOf? (x :: (xs ++ (pat ++ ys))) = none := by
      rw [Option.eq_none_iff_forall_ne_some]
      intro rest hrest
      have hpre : pat <+: x :: (xs ++ (pat ++ ys)) :=
        ⟨rest, List.isPrefixOf?_eq_some_iff_append_eq.1 hrest⟩
      -- an occurrence here would end before the last character of the one behind `xs`
      have hshort : x :: (xs ++ pat.dropLast) <+: x :: (xs ++ (pat ++ ys)) := by
        rw [← List.cons_append, ← List.cons_append]
        exact (List.prefix_append_right_inj _).2
          ((List.dropLast_prefix pat).trans (List.prefix_append pat ys))
      have hlength : pat.length ≤ (x :: (xs ++ pat.dropLast)).length := by
        rw [List.length_cons, List.length_append, List.length_dropLast]
        omega
      exact hhere (List.prefix_of_prefix_length_le hpre hshort hlength)
    rw [List.cons_append, cutAt, hprefix, ih hlater]
    rfl

/-! ### One separator -/

theorem splitOnce_eq_some_iff_cutAt {pat s before after : String} :
    splitOnce pat s = some (before, after) ↔
      cutAt pat.toList s.toList = some (before.toList, after.toList) := by
  rw [splitOnce, Option.map_eq_some_iff]
  constructor
  · rintro ⟨⟨xs, ys⟩, hcut, heq⟩
    obtain ⟨rfl, rfl⟩ := Prod.mk.inj heq
    rwa [String.toList_ofList, String.toList_ofList]
  · intro hcut
    exact ⟨_, hcut, by rw [String.ofList_toList, String.ofList_toList]⟩

/-- A text is split at the first place of a single character. -/
theorem splitOnce_eq_some_iff {pat : String} {sep : Char} (hpat : pat.toList = [sep])
    {s before after : String} :
    splitOnce pat s = some (before, after) ↔
      s = before ++ pat ++ after ∧ sep ∉ before.toList := by
  rw [splitOnce_eq_some_iff_cutAt, hpat, cutAt_singleton_eq_some_iff, ← String.toList_inj,
    String.toList_append, String.toList_append, hpat, List.append_assoc, List.singleton_append]

/-- A text is split at a pattern that does not begin to occur earlier. -/
theorem splitOnce_append {pat s : String} (hpat : pat.toList ≠ [])
    (h : ¬ pat.toList <:+: s.toList ++ pat.toList.dropLast) (t : String) :
    splitOnce pat (s ++ pat ++ t) = some (s, t) := by
  rw [splitOnce_eq_some_iff_cutAt, String.toList_append, String.toList_append, List.append_assoc]
  exact cutAt_append hpat h t.toList

theorem splitOnce_eq_none_iff {pat s : String} :
    splitOnce pat s = none ↔ ¬ pat.toList <:+: s.toList := by
  rw [splitOnce, Option.map_eq_none_iff, cutAt_eq_none_iff]

/-! ### All separators -/

/-- The fields of a text are those that the standard library splits it into. -/
theorem fieldsOf_eq_splitOn (sep : Char) (cs : List Char) : fieldsOf sep cs = cs.splitOn sep := by
  induction cs with
  | nil => rfl
  | cons c cs ih =>
    obtain ⟨f, fs, hfs⟩ := List.exists_cons_of_ne_nil (List.splitOn_ne_nil sep cs)
    rw [fieldsOf, ih, List.splitOn_cons_eq_if_modifyHead, hfs]
    by_cases hc : c = sep <;> simp [hc, consField]

/-- What puts texts together has the characters of the texts and of the separator. -/
theorem not_mem_intercalate {sep c : Char} (hsep : c ≠ sep) {cells : List String}
    (h : ∀ cell ∈ cells, c ∉ cell.toList) :
    c ∉ ((String.singleton sep).intercalate cells).toList := by
  rw [String.toList_intercalate, String.toList_singleton]
  induction cells with
  | nil => exact List.not_mem_nil
  | cons cell cells ih =>
    obtain ⟨hcell, hcells⟩ := List.forall_mem_cons.1 h
    rcases cells with - | ⟨next, cells⟩
    · rwa [List.map_singleton, List.intercalate_singleton]
    · rw [List.map_cons, List.map_cons, List.intercalate_cons_cons, List.mem_append,
        List.mem_append, List.mem_singleton]
      rintro ((hmem | heq) | hmem)
      · exact hcell hmem
      · exact hsep heq
      · exact ih hcells hmem

/-- **Fields that were put together are found again**, where none holds the separator. -/
theorem fields_intercalate {sep : Char} {cells : List String} (hne : cells ≠ [])
    (h : ∀ cell ∈ cells, sep ∉ cell.toList) :
    fields sep ((String.singleton sep).intercalate cells) = cells := by
  have hcells : ∀ cs ∈ cells.map String.toList, sep ∉ cs := by
    intro cs hcs
    obtain ⟨cell, hcell, rfl⟩ := List.mem_map.1 hcs
    exact h cell hcell
  have hsplit := List.splitOn_intercalate sep hcells (mt List.map_eq_nil_iff.1 hne)
  rw [fields, String.toList_intercalate, String.toList_singleton, fieldsOf_eq_splitOn, hsplit,
    List.map_map]
  exact (List.map_congr_left fun cell _ ↦ String.ofList_toList).trans (List.map_id cells)

end Manuscript.Text
