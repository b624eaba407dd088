import Manuscript.Action.Basic
import Manuscript.Decimal.Fixed
import Manuscript.Page.Format
import Manuscript.Page.Markdown
import Manuscript.Report.Contents
import Manuscript.Report.Count

/-!
# The data report

The data report shows the table of contents, the counts of the formats built in this run, and how
many acts each verb has. Line estimates have one place after the point and page estimates two.
-/

namespace Manuscript.DataReport

/-- The number of acts of every verb that has some, in the order of the verbs. -/
def verbCounts (actions : List Action) : List (Verb × Nat) :=
  let verbs := (actions.filterMap Item.act?).map Act.verb
  (Verb.all.map fun v ↦ (v, verbs.count v)).filter fun e ↦ e.2 ≠ 0

/-- The line of a counted format. -/
def countLine (format : Format) (c : CountResult) : String :=
  Markdown.bullet
    (format.name ++ ": " ++ Nat.repr c.total ++ " chars (" ++ Nat.repr c.real ++ " real, "
      ++ Nat.repr c.space ++ " space), " ++ Decimal.fixed 1 c.lines ++ " lines, "
      ++ Decimal.fixed 2 c.pages ++ " pages")

/-- The line of a verb. -/
def verbLine (v : Verb) (n : Nat) : String :=
  Markdown.bullet (v.name ++ ": " ++ Nat.repr n)

/-- The lines of a section, or a sentence in their place if there are none. -/
def linesOr (sentence : String) (lines : List String) : List String :=
  if lines.isEmpty then [sentence ++ "\n"] else lines

/-- The rule between two sections. -/
def divider : String :=
  "\n" ++ Markdown.rule ++ "\n\n"

/-- The page of the data report. -/
def render (contents : List ContentsEntry) (counts : List (Format × CountResult))
    (verbs : List (Verb × Nat)) : String :=
  Markdown.page
    (Contents.render contents :: divider
      :: linesOr "No counted formats in this build." (counts.map fun c ↦ countLine c.1 c.2)
      ++ divider
      :: linesOr "No actions compiled in this build." (verbs.map fun v ↦ verbLine v.1 v.2))

end Manuscript.DataReport
