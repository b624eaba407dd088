import Manuscript.Text.Blank
import Manuscript.Text.Lines

/-!
# Counting on manuscript paper

Manuscript paper has a number of columns in a line and of rows on a page. A line of text that fits
the columns takes one line of paper, and a longer one takes its length divided by the columns, as a
fraction. The fractions are kept exact in `lineLoads`; the estimate is their sum in doubles, added
up from the first line on.
-/

namespace Manuscript

/-- The measures of manuscript paper. -/
structure PaperSettings where
  /-- Characters in a line. -/
  columns : Nat
  /-- Lines on a page. -/
  rows : Nat
  deriving DecidableEq, Repr

namespace Paper

/-- The paper that a line of the given length takes, as a quotient of natural numbers. -/
def lineLoad (columns length : Nat) : Nat × Nat :=
  if length ≤ columns then (1, 1) else (length, columns)

/-- The paper that the lines of a text take. Paper has at least one column. -/
def lineLoads (columns : Nat) (text : String) : List (Nat × Nat) :=
  (Text.linesOf text.toList).map fun line ↦ lineLoad (max columns 1) line.length

/-- A quotient as a double. -/
def quotient (q : Nat × Nat) : Float :=
  if q.2 = 1 then Float.ofNat q.1 else Float.ofNat q.1 / Float.ofNat q.2

/-- The sum of doubles from the first on. The sum of none is the negative zero, which changes no
double that is added to it. -/
def sum (xs : List Float) : Float :=
  xs.foldl (· + ·) (-0.0)

/-- The estimated number of lines of a text. -/
def countLines (columns : Nat) (text : String) : Float :=
  sum ((lineLoads columns text).map quotient)

end Paper

/-- The counts of a text. -/
structure CountResult where
  /-- Characters other than line ends. -/
  total : Nat
  /-- Blank characters other than line ends. -/
  space : Nat
  lines : Float
  pages : Float

namespace CountResult

/-- Characters that are not blank. -/
def real (c : CountResult) : Nat :=
  c.total - c.space

/-- The characters of a text that are counted. -/
def counted (text : String) : List Char :=
  text.toList.filter fun c ↦ c ≠ '\n' && c ≠ '\r'

/-- The counts of a text on paper of the given measures. A page has at least one line. -/
def ofText (paper : PaperSettings) (text : String) : CountResult :=
  let lines := Paper.countLines paper.columns text
  { total := (counted text).length
    space := (counted text).countP Text.isBlank
    lines := lines
    pages := lines / Float.ofNat (max paper.rows 1) }

end CountResult

end Manuscript
