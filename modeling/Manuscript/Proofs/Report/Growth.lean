import Mathlib.Algebra.BigOperators.Group.List.Basic
import Mathlib.Algebra.Order.Field.Basic
import Mathlib.Tactic.Linarith
import Manuscript.Proofs.Report.Count

/-!
# How the estimate of lines grows with the text

A text is estimated at no more lines than any longer text that begins with it, with one exception.
A carriage return belongs to a line end only together with the line feed behind it; a text that
stops between the two counts it into its last line, and if that line fills the paper already, the
line feed makes the estimate smaller (`exactLines_le_append_iff`).

A text is finished lines and an open one behind them, so only the open line matters. What is added
goes on with it (`linesOf_append_of_open`), and a longer line takes no less paper
(`linePaper_mono`). Where the open line ends with a carriage return and a line feed is added, it
becomes shorter by that carriage return; that costs at most one line of paper
(`linePaper_succ_le`), which any further line makes up for.
-/

namespace Manuscript

namespace Paper

/-! ### The paper that lines take -/

/-- The paper that a line of the given length takes, in exact fractions. -/
def linePaper (columns length : ℕ) : ℚ :=
  ((lineLoad columns length).1 : ℚ) / (lineLoad columns length).2

/-- The paper that some lines take, in exact fractions. -/
def linesPaper (columns : ℕ) (ls : List (List Char)) : ℚ :=
  (ls.map fun l ↦ linePaper columns l.length).sum

theorem exactLines_eq (columns : ℕ) (text : String) :
    exactLines columns text = linesPaper (max columns 1) (Text.linesOf text.toList) := by
  rw [exactLines, lineLoads, List.map_map]
  rfl

theorem linesPaper_cons (columns : ℕ) (l : List Char) (ls : List (List Char)) :
    linesPaper columns (l :: ls) = linePaper columns l.length + linesPaper columns ls :=
  List.sum_cons

theorem linesPaper_append (columns : ℕ) (ls ms : List (List Char)) :
    linesPaper columns (ls ++ ms) = linesPaper columns ls + linesPaper columns ms := by
  rw [linesPaper, List.map_append, List.sum_append]
  rfl

section

variable {columns : ℕ} (hcolumns : 0 < columns)
include hcolumns

/-- A line takes its share of the columns, and one line of paper at least. -/
theorem linePaper_eq_max (length : ℕ) :
    linePaper columns length = max 1 ((length : ℚ) / columns) := by
  have hpos : (0 : ℚ) < columns := Nat.cast_pos.2 hcolumns
  rw [linePaper, lineLoad]
  split
  · rename_i hfits
    have hle : (length : ℚ) / columns ≤ 1 := (div_le_one hpos).2 (Nat.cast_le.2 hfits)
    rw [max_eq_left hle]
    norm_num
  · rename_i hlong
    have hle : 1 ≤ (length : ℚ) / columns :=
      (one_le_div hpos).2 (Nat.cast_le.2 (Nat.le_of_not_le hlong))
    rw [max_eq_right hle]

theorem one_le_linePaper (length : ℕ) : 1 ≤ linePaper columns length := by
  rw [linePaper_eq_max hcolumns]
  exact le_max_left _ _

/-- A longer line takes no less paper. -/
theorem linePaper_mono {m n : ℕ} (h : m ≤ n) : linePaper columns m ≤ linePaper columns n := by
  rw [linePaper_eq_max hcolumns, linePaper_eq_max hcolumns]
  gcongr

/-- One more character takes no more than one more line of paper. -/
theorem linePaper_succ_le (length : ℕ) :
    linePaper columns (length + 1) ≤ linePaper columns length + 1 := by
  have hpos : (0 : ℚ) < columns := Nat.cast_pos.2 hcolumns
  have hone : 1 / (columns : ℚ) ≤ 1 := (div_le_one hpos).2 (Nat.one_le_cast.2 hcolumns)
  rw [linePaper_eq_max hcolumns, linePaper_eq_max hcolumns, Nat.cast_succ, add_div,
    max_le_iff]
  have hleft := le_max_left 1 ((length : ℚ) / columns)
  have hright := le_max_right 1 ((length : ℚ) / columns)
  exact ⟨by linarith, by linarith⟩

/-- One more character takes more paper exactly if the line is then longer than the columns. -/
theorem linePaper_succ_le_iff {length : ℕ} :
    linePaper columns (length + 1) ≤ linePaper columns length ↔ length + 1 ≤ columns := by
  have hpos : (0 : ℚ) < columns := Nat.cast_pos.2 hcolumns
  constructor
  · intro h
    by_contra hlong
    have hfull : 1 ≤ (length : ℚ) / columns := by
      rw [one_le_div hpos, Nat.cast_le]
      omega
    have hpart : 0 < 1 / (columns : ℚ) := one_div_pos.2 hpos
    rw [linePaper_eq_max hcolumns, linePaper_eq_max hcolumns, max_eq_right hfull,
      Nat.cast_succ, add_div, max_le_iff] at h
    linarith [h.2]
  · intro hfits
    have hle : ((length + 1 : ℕ) : ℚ) / columns ≤ 1 := (div_le_one hpos).2 (Nat.cast_le.2 hfits)
    rw [linePaper_eq_max hcolumns (length + 1), max_eq_left hle]
    exact one_le_linePaper hcolumns length

theorem linesPaper_nonneg (ls : List (List Char)) : 0 ≤ linesPaper columns ls := by
  induction ls with
  | nil => exact le_rfl
  | cons l ls ih =>
    rw [linesPaper_cons]
    linarith [one_le_linePaper hcolumns l.length]

theorem one_le_linesPaper {ls : List (List Char)} (h : ls ≠ []) : 1 ≤ linesPaper columns ls := by
  obtain ⟨l, ls, rfl⟩ := List.exists_cons_of_ne_nil h
  rw [linesPaper_cons]
  linarith [one_le_linePaper hcolumns l.length, linesPaper_nonneg hcolumns ls]

/-- Lines take no less paper if more is put in front of the first of them. -/
theorem linePaper_le_linesPaper_foldr {cs : List Char} (hne : cs ≠ []) (ls : List (List Char)) :
    linePaper columns cs.length ≤ linesPaper columns (cs.foldr Text.consLine ls) := by
  rcases ls with - | ⟨l, ls⟩
  · rw [Text.foldr_consLine_nil hne, linesPaper_cons]
    linarith [linesPaper_nonneg hcolumns []]
  · have hlonger : linePaper columns cs.length ≤ linePaper columns (cs ++ l).length :=
      linePaper_mono hcolumns (by rw [List.length_append]; exact Nat.le_add_right _ _)
    rw [Text.foldr_consLine_cons, linesPaper_cons]
    linarith [linesPaper_nonneg hcolumns ls]

/-- **The open line**: going on with it takes no less paper, unless it ends with a carriage return
and a line feed is all that comes behind. -/
theorem linesPaper_of_open_le_iff {line : List Char} (hopen : '\n' ∉ line) (hne : line ≠ [])
    (rest : List Char) :
    linesPaper columns [line] ≤ linesPaper columns (Text.linesOf (line ++ rest)) ↔
      ¬ (rest = ['\n'] ∧ line.getLast? = some '\r' ∧ columns < line.length) := by
  by_cases hmeet : line.getLast? = some '\r' ∧ rest.head? = some '\n'
  · -- the line loses its carriage return
    obtain ⟨hlast, hhead⟩ := hmeet
    obtain ⟨init, rfl⟩ := List.getLast?_eq_some_iff.1 hlast
    obtain ⟨rest, rfl⟩ := List.head?_eq_some_iff.1 hhead
    have hinit : '\n' ∉ init := fun hmem ↦ hopen (List.mem_append_left _ hmem)
    have hlines : Text.linesOf (init ++ ['\r'] ++ '\n' :: rest) = init :: Text.linesOf rest := by
      rw [List.append_assoc]
      exact Text.linesOf_append_lineEnd hinit rest
    have hpaper : linesPaper columns [init ++ ['\r']] = linePaper columns (init.length + 1) := by
      rw [linesPaper_cons, List.length_append]
      exact add_zero _
    rw [hlines, hpaper, linesPaper_cons, List.length_append]
    rcases eq_or_ne rest [] with rfl | hrest
    · have hnone : linesPaper columns (Text.linesOf []) = 0 := rfl
      rw [hnone, add_zero, linePaper_succ_le_iff hcolumns]
      simp [hlast]
    · have hone := one_le_linesPaper hcolumns (Text.linesOf_ne_nil hrest)
      have hsucc := linePaper_succ_le hcolumns init.length
      refine iff_of_true (by linarith) fun h ↦ hrest ?_
      exact (List.cons.inj h.1).2
  · rw [Text.linesOf_append_of_open hopen hmeet]
    refine iff_of_true ?_ fun h ↦ hmeet ⟨h.2.1, by rw [h.1]; rfl⟩
    have hpaper : linesPaper columns [line] = linePaper columns line.length := add_zero _
    exact hpaper ▸ linePaper_le_linesPaper_foldr hcolumns hne _

end

/-! ### Texts that go on -/

/-- A text stops inside a line end: all that follows is the line feed to the carriage return at its
end. Its last line, which holds the carriage return, is longer than the columns. -/
structure StopsInLineEnd (columns : ℕ) (text rest : String) : Prop where
  lineFeed : rest = "\n"
  carriageReturn : text.toList.getLast? = some '\r'
  long : ∃ line, (Text.linesOf text.toList).getLast? = some line ∧ columns < line.length

/-- **The estimate of lines grows with the text**, and the texts that stop inside a line end behind
a line that fills the paper are the only exception. Paper has at least one column. -/
theorem exactLines_le_append_iff (columns : ℕ) (text rest : String) :
    exactLines columns text ≤ exactLines columns (text ++ rest) ↔
      ¬ StopsInLineEnd (max columns 1) text rest := by
  have hcolumns : 0 < max columns 1 := Nat.lt_of_lt_of_le Nat.one_pos (Nat.le_max_right _ _)
  obtain ⟨finished, line, htext, hfinished, hopen⟩ := Text.exists_open_line text.toList
  have hwhole : exactLines columns (text ++ rest) =
      linesPaper (max columns 1) (Text.linesOf finished) +
        linesPaper (max columns 1) (Text.linesOf (line ++ rest.toList)) := by
    rw [exactLines_eq, String.toList_append, htext, List.append_assoc,
      Text.linesOf_append hfinished, linesPaper_append]
  have hlines : Text.linesOf text.toList = Text.linesOf finished ++ Text.linesOf line := by
    rw [htext, Text.linesOf_append hfinished]
  have hbegin : exactLines columns text = linesPaper (max columns 1) (Text.linesOf finished) +
      linesPaper (max columns 1) (Text.linesOf line) := by
    rw [exactLines_eq, hlines, linesPaper_append]
  rw [hwhole, hbegin, add_le_add_iff_left]
  rcases eq_or_ne line [] with rfl | hne
  · -- a text whose lines are all finished does not end with a carriage return
    refine iff_of_true (linesPaper_nonneg hcolumns _) fun h ↦ ?_
    have hlast := h.carriageReturn
    rw [htext, List.append_nil] at hlast
    rcases hfinished with rfl | hfinished
    · cases hlast
    · rw [hfinished] at hlast
      cases hlast
  · have hlast : text.toList.getLast? = line.getLast? := by
      rw [htext, List.getLast?_append_of_ne_nil _ hne]
    have hlong : (Text.linesOf text.toList).getLast? = some line := by
      rw [hlines, Text.linesOf_of_open hopen hne, List.getLast?_concat]
    rw [Text.linesOf_of_open hopen hne, linesPaper_of_open_le_iff hcolumns hopen hne, not_iff_not]
    constructor
    · rintro ⟨hrest, hcr, hcolumns⟩
      exact ⟨String.toList_inj.1 hrest, hlast.trans hcr, line, hlong, hcolumns⟩
    · rintro ⟨rfl, hcr, line', hline', hcolumns⟩
      obtain rfl := Option.some.inj (hlong.symm.trans hline')
      exact ⟨rfl, hlast.symm.trans hcr, hcolumns⟩

/-- Two characters fill a line of two columns. With a carriage return they take one and a half, and
with the line feed to it one again. -/
theorem exactLines_append_line_feed_lt :
    exactLines 2 ("ab\r" ++ "\n") < exactLines 2 "ab\r" := by
  have hline : lineLoads 2 ("ab\r" ++ "\n") = [(1, 1)] := by decide
  have hopen : lineLoads 2 "ab\r" = [(3, 2)] := by decide
  rw [exactLines, exactLines, hline, hopen]
  norm_num

end Paper

end Manuscript
