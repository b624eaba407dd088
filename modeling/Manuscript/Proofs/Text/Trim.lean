import Mathlib.Data.List.DropRight
import Manuscript.Text.Blank

/-!
# Trimmed texts

Trimming leaves a text that neither begins nor ends with a blank, and leaves such a text alone. So
what was trimmed once is not trimmed again (`trim_trim`), which is why a token that was read from a
field reads the same when it is written back into one. Trimming only at the end takes from a longer
text what it takes from its last part, unless that is all blank (`trimEnd_append`).
-/

namespace Manuscript.Text

/-- The text neither begins nor ends with a blank. -/
structure IsTrimmed (cs : List Char) : Prop where
  head : ∀ c ∈ cs.head?, isBlank c = false
  last : ∀ c ∈ cs.getLast?, isBlank c = false

theorem isTrimmed_of_forall {cs : List Char} (h : ∀ c ∈ cs, isBlank c = false) :
    IsTrimmed cs :=
  ⟨fun c hc ↦ h c (List.mem_of_mem_head? hc), fun c hc ↦ h c (List.mem_of_mem_getLast? hc)⟩

/-- A text whose first character is no blank has no leading blanks. -/
theorem dropWhile_isBlank_of_head {cs : List Char} (h : ∀ c ∈ cs.head?, isBlank c = false) :
    cs.dropWhile isBlank = cs := by
  cases cs with
  | nil => rfl
  | cons c cs =>
    rw [List.dropWhile_cons_of_neg]
    rw [h c rfl]
    exact Bool.false_ne_true

/-- A text whose last character is no blank has no trailing blanks. -/
theorem trimEndChars_of_last {cs : List Char} (h : ∀ c ∈ cs.getLast?, isBlank c = false) :
    trimEndChars cs = cs := by
  have hhead : ∀ c ∈ cs.reverse.head?, isBlank c = false := by rwa [List.head?_reverse]
  rw [trimEndChars, dropWhile_isBlank_of_head hhead, List.reverse_reverse]

theorem trimChars_of_isTrimmed {cs : List Char} (h : IsTrimmed cs) : trimChars cs = cs := by
  rw [trimChars, trimStartChars, dropWhile_isBlank_of_head h.head, trimEndChars_of_last h.last]

/-- The first character left by dropping blanks is no blank. -/
theorem isBlank_head?_dropWhile {cs : List Char} {c : Char}
    (h : c ∈ (cs.dropWhile isBlank).head?) : isBlank c = false := by
  have := List.head?_dropWhile_not isBlank cs
  rw [Option.mem_def.1 h] at this
  simpa using this

theorem isTrimmed_trimChars (cs : List Char) : IsTrimmed (trimChars cs) := by
  constructor
  · intro c hc
    -- trimming at the end keeps a beginning of the text
    have hprefix : trimChars cs <+: trimStartChars cs := List.rdropWhile_prefix isBlank _
    obtain ⟨ds, hds⟩ := List.head?_eq_some_iff.1 hc
    obtain ⟨rest, hrest⟩ := hprefix
    have hhead : c ∈ (cs.dropWhile isBlank).head? := by
      rw [← trimStartChars, ← hrest, hds]
      rfl
    exact isBlank_head?_dropWhile hhead
  · intro c hc
    rw [trimChars, trimEndChars, List.getLast?_reverse] at hc
    exact isBlank_head?_dropWhile hc

/-- A text that neither begins nor ends with a blank is left alone. -/
theorem trim_of_isTrimmed {s : String} (h : IsTrimmed s.toList) : trim s = s := by
  rw [trim, trimChars_of_isTrimmed h, String.ofList_toList]

theorem isTrimmed_trim (s : String) : IsTrimmed (trim s).toList := by
  rw [trim, String.toList_ofList]
  exact isTrimmed_trimChars s.toList

/-- **What was trimmed is not trimmed again.** -/
theorem trim_trim (s : String) : trim (trim s) = trim s :=
  trim_of_isTrimmed (isTrimmed_trim s)

/-! ### The end of a text -/

theorem isBlankText_append (s t : String) :
    isBlankText (s ++ t) = (isBlankText s && isBlankText t) := by
  rw [isBlankText, String.toList_append, List.all_append]
  rfl

theorem trimEndChars_append (xs ys : List Char) :
    trimEndChars (xs ++ ys) =
      if ys.all isBlank then trimEndChars xs else xs ++ trimEndChars ys := by
  have hblank : (ys.reverse.dropWhile isBlank).isEmpty = ys.all isBlank := by
    rw [← List.all_reverse, Bool.eq_iff_iff, List.isEmpty_iff, List.dropWhile_eq_nil_iff,
      List.all_eq_true]
  rw [trimEndChars, List.reverse_append, List.dropWhile_append, hblank]
  split
  · rfl
  · rw [List.reverse_append, List.reverse_reverse]
    rfl

/-- Only blanks at the end of a text are trimmed there. -/
theorem trimEnd_append (s t : String) :
    trimEnd (s ++ t) = if isBlankText t then trimEnd s else s ++ trimEnd t := by
  rw [trimEnd, String.toList_append, trimEndChars_append, isBlankText]
  split
  · rfl
  · rw [String.ofList_append, String.ofList_toList]
    rfl

/-- What is trimmed at the end is blank. -/
theorem exists_eq_trimEnd_append (s : String) :
    ∃ blanks, isBlankText blanks ∧ s = trimEnd s ++ blanks := by
  refine ⟨String.ofList (s.toList.rtakeWhile isBlank), ?_, ?_⟩
  · rw [isBlankText, String.toList_ofList, List.all_eq_true]
    exact fun c hc ↦ List.mem_rtakeWhile_imp hc
  · have hwhole : trimEndChars s.toList ++ s.toList.rtakeWhile isBlank = s.toList :=
      List.rdropWhile_append_rtakeWhile
    rw [trimEnd, ← String.ofList_append, hwhole, String.ofList_toList]

theorem trimEnd_of_isBlankText {s : String} (h : isBlankText s) : trimEnd s = "" := by
  rw [trimEnd, trimEndChars_eq_nil_iff.2 (List.all_eq_true.1 h), String.ofList_nil]

/-- What has no blanks at its end has none with a text in front of which that is so too. -/
theorem trimEnd_append_of_trimEnd {s t : String} (hs : trimEnd s = s) (ht : trimEnd t = t) :
    trimEnd (s ++ t) = s ++ t := by
  rw [trimEnd_append, hs, ht]
  split
  · rename_i hblank
    rw [← ht, trimEnd_of_isBlankText hblank, String.append_empty]
  · rfl

theorem trimEnd_of_trim_eq {s : String} (h : trim s = s) : trimEnd s = s := by
  have htrimmed : IsTrimmed s.toList := h ▸ isTrimmed_trim s
  rw [trimEnd, trimEndChars_of_last htrimmed.last, String.ofList_toList]

theorem trimChars_trimEndChars (cs : List Char) : trimChars (trimEndChars cs) = trimChars cs := by
  have hlead : ∀ c ∈ cs.takeWhile isBlank, isBlank c :=
    fun c hc ↦ List.all_eq_true.1 List.all_takeWhile c hc
  have hsplit : trimEndChars (cs.takeWhile isBlank ++ trimStartChars cs) = trimEndChars cs := by
    rw [trimStartChars, List.takeWhile_append_dropWhile]
  rw [← hsplit, trimEndChars_append]
  split
  · -- the text shows nothing
    rename_i hrest
    rw [trimEndChars_eq_nil_iff.2 hlead, trimChars, trimChars,
      trimEndChars_eq_nil_iff.2 (List.all_eq_true.1 hrest)]
    rfl
  · rw [← trimChars, trimChars, trimStartChars, List.dropWhile_append_of_pos hlead,
      ← trimStartChars, ← trimChars, trimChars_of_isTrimmed (isTrimmed_trimChars cs)]

/-- Trimming does not see what was trimmed at the end. -/
theorem trim_trimEnd (s : String) : trim (trimEnd s) = trim s := by
  rw [trim, trimEnd, String.toList_ofList, trimChars_trimEndChars, trim]

end Manuscript.Text
