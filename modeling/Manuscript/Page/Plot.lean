import Manuscript.Page.Format
import Manuscript.Page.Markdown
import Manuscript.Story.Record
import Manuscript.Tag.Resolver

/-!
# The plot

The plot page shows the plots of all records in manuscript order, without the parts that are blank.
-/

namespace Manuscript

/-- The title and the plot of an element. -/
structure PlotRecord where
  element : Element
  title : String
  plot : Plot
  deriving DecidableEq, Repr

namespace PlotRecord

def ofStory (r : StoryRecord) : PlotRecord :=
  ⟨r.element, r.fields.title, r.fields.plot⟩

/-- The record with its tags resolved. -/
def retag (r : Resolver) (p : PlotRecord) : PlotRecord :=
  { p with title := r.text "" p.title, plot := p.plot.map (r.text "") }

/-- The fragments of a record: its heading, and a line for every part that shows something. -/
def fragments (p : PlotRecord) : List String :=
  Markdown.heading p.element p.title ::
    (p.plot.parts.filter fun part ↦ !Text.isBlankText part.2).map fun part ↦
      Markdown.bullet (part.1 ++ ": " ++ Text.trim part.2)

end PlotRecord

namespace Plot

/-- The plots of a story. -/
def project (r : Resolver) (story : Story) : Except Error (List PlotRecord) :=
  if story.isEmpty then .error (.emptyInput Format.plot.name)
  else Format.plot.nonEmpty ((story.map PlotRecord.ofStory).map (PlotRecord.retag r))

/-- The page of plots. -/
def render (records : List PlotRecord) : String :=
  Markdown.page (records.flatMap PlotRecord.fragments)

end Plot

end Manuscript
