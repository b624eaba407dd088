import Mathlib.Algebra.Order.Field.Rat
import Manuscript.Proofs.Text.Lines
import Manuscript.Report.Count

/-!
# Counts of a text and of its parts

The counts of two texts in a row are the sums of their counts, where the first ends its last line:
then the lines of the whole are the lines of the first and the lines of the second
(`linesOf_append`). The estimates of lines and pages are taken in exact fractions here, in which
sums do not depend on the order of their terms; `CountResult` rounds them to doubles.
-/

namespace Manuscript

/-! ### Exact estimates -/

namespace Paper

/-- The estimated number of lines of a text, in exact fractions. -/
def exactLines (columns : ℕ) (text : String) : ℚ :=
  ((lineLoads columns text).map fun q ↦ (q.1 : ℚ) / q.2).sum

/-- The estimated number of pages of a text, in exact fractions. A page has at least one line. -/
def exactPages (paper : PaperSettings) (text : String) : ℚ :=
  exactLines paper.columns text / (max paper.rows 1 : ℕ)

variable {s : String} (h : s.toList = [] ∨ s.toList.getLast? = some '\n')
include h

theorem lineLoads_append (columns : ℕ) (t : String) :
    lineLoads columns (s ++ t) = lineLoads columns s ++ lineLoads columns t := by
  rw [lineLoads, String.toList_append, Text.linesOf_append h, List.map_append]
  rfl

theorem exactLines_append (columns : ℕ) (t : String) :
    exactLines columns (s ++ t) = exactLines columns s + exactLines columns t := by
  rw [exactLines, lineLoads_append h, List.map_append, List.sum_append]
  rfl

theorem exactPages_append (paper : PaperSettings) (t : String) :
    exactPages paper (s ++ t) = exactPages paper s + exactPages paper t := by
  rw [exactPages, exactLines_append h, add_div]
  rfl

end Paper

/-! ### Characters -/

namespace CountResult

theorem counted_append (s t : String) : counted (s ++ t) = counted s ++ counted t := by
  rw [counted, String.toList_append, List.filter_append]
  rfl

theorem total_ofText_append (paper : PaperSettings) (s t : String) :
    (ofText paper (s ++ t)).total = (ofText paper s).total + (ofText paper t).total := by
  show (counted (s ++ t)).length = _
  rw [counted_append, List.length_append]
  rfl

theorem space_ofText_append (paper : PaperSettings) (s t : String) :
    (ofText paper (s ++ t)).space = (ofText paper s).space + (ofText paper t).space := by
  show (counted (s ++ t)).countP Text.isBlank = _
  rw [counted_append, List.countP_append]
  rfl

theorem space_le_total (paper : PaperSettings) (s : String) :
    (ofText paper s).space ≤ (ofText paper s).total :=
  List.countP_le_length

theorem real_ofText_append (paper : PaperSettings) (s t : String) :
    (ofText paper (s ++ t)).real = (ofText paper s).real + (ofText paper t).real := by
  have hs := space_le_total paper s
  have ht := space_le_total paper t
  rw [real, real, real, total_ofText_append, space_ofText_append]
  omega

end CountResult

/-- The counts of two texts in a row are the sums of their counts. -/
structure CountsAdd (paper : PaperSettings) (s t : String) : Prop where
  total : (CountResult.ofText paper (s ++ t)).total =
    (CountResult.ofText paper s).total + (CountResult.ofText paper t).total
  space : (CountResult.ofText paper (s ++ t)).space =
    (CountResult.ofText paper s).space + (CountResult.ofText paper t).space
  real : (CountResult.ofText paper (s ++ t)).real =
    (CountResult.ofText paper s).real + (CountResult.ofText paper t).real
  lines : Paper.exactLines paper.columns (s ++ t) =
    Paper.exactLines paper.columns s + Paper.exactLines paper.columns t
  pages : Paper.exactPages paper (s ++ t) = Paper.exactPages paper s + Paper.exactPages paper t

/-- Counts add up where the first text ends its last line. -/
theorem countsAdd (paper : PaperSettings) {s : String}
    (h : s.toList = [] ∨ s.toList.getLast? = some '\n') (t : String) : CountsAdd paper s t where
  total := CountResult.total_ofText_append paper s t
  space := CountResult.space_ofText_append paper s t
  real := CountResult.real_ofText_append paper s t
  lines := Paper.exactLines_append h paper.columns t
  pages := Paper.exactPages_append h paper t

end Manuscript
