import Manuscript.Page.Format
import Manuscript.Page.Markdown
import Manuscript.Story.Record
import Manuscript.Tag.Resolver

/-!
# The outline

The outline lists the titles and outlines of all records, grouped by kind from the book to the
scenes and in manuscript order within a group. Each group has a heading.
-/

namespace Manuscript

/-- The title and the outline of an element. -/
structure OutlineRecord where
  element : Element
  title : String
  outline : String
  deriving DecidableEq, Repr

namespace OutlineRecord

def ofStory (r : StoryRecord) : OutlineRecord :=
  ⟨r.element, r.fields.title, r.fields.outline⟩

/-- The record with its tags resolved. -/
def retag (r : Resolver) (o : OutlineRecord) : OutlineRecord :=
  { o with title := r.text "" o.title, outline := r.text "" o.outline }

/-- The line of a record. A blank outline is left out. -/
def line (o : OutlineRecord) : String :=
  let title := "**" ++ o.title ++ "**"
  Markdown.bullet
    (if Text.isBlankText o.outline then title else title ++ ": " ++ Text.trim o.outline)

end OutlineRecord

namespace Outline

/-- The heading of a group. -/
def groupLabel : Element → String
  | .book => "Book"
  | .chapter => "Chapters"
  | .episode => "Episodes"
  | .scene => "Scenes"

/-- The records grouped by kind, each group in manuscript order. -/
def grouped (records : List OutlineRecord) : List OutlineRecord :=
  records.mergeSort fun a b ↦ a.element.depth ≤ b.element.depth

/-- The outline of a story. -/
def project (r : Resolver) (story : Story) : Except Error (List OutlineRecord) :=
  if story.isEmpty then .error (.emptyInput Format.outline.name)
  else
    Format.outline.nonEmpty
      ((grouped (story.map OutlineRecord.ofStory)).map (OutlineRecord.retag r))

/-- The fragments of records, where the last heading was that of the given group. -/
def fragmentsFrom : Option Element → List OutlineRecord → List String
  | _, [] => []
  | group, o :: os =>
    (if group = some o.element then [] else [Markdown.heading .chapter (groupLabel o.element)])
      ++ o.line :: fragmentsFrom (some o.element) os

/-- The page of an outline. -/
def render (records : List OutlineRecord) : String :=
  Markdown.page (fragmentsFrom none records)

end Outline

end Manuscript
