import Manuscript.Story.Element
import Manuscript.Story.Scene

/-!
# Story records

One record is one element file of the manuscript: its kind, its file name and what its front
matter and body say. A story is the list of its records in manuscript order.
-/

namespace Manuscript

/-- The six parts of a plot. -/
structure Plot where
  setup : String
  tp1 : String
  develop : String
  tp2 : String
  climax : String
  resolve : String
  deriving DecidableEq, Repr

namespace Plot

/-- A plot of which nothing is written. -/
def empty : Plot := ⟨"", "", "", "", "", ""⟩

/-- The parts with their labels, in the order of the story. -/
def parts (p : Plot) : List (String × String) :=
  [("setup", p.setup), ("tp1", p.tp1), ("develop", p.develop), ("tp2", p.tp2),
   ("climax", p.climax), ("resolve", p.resolve)]

/-- The plot with every part mapped. -/
def map (f : String → String) (p : Plot) : Plot :=
  ⟨f p.setup, f p.tp1, f p.develop, f p.tp2, f p.climax, f p.resolve⟩

/-- Whether no part shows anything. -/
def isBlank (p : Plot) : Bool :=
  p.parts.all fun part ↦ Text.isBlankText part.2

end Plot

/-- What an element file says. -/
structure StoryFields where
  title : String
  outline : String
  plot : Plot
  /-- The facets of a scene; other elements do not use them. -/
  scene : SceneSheet SceneValue
  /-- The body lines below the front matter. -/
  body : List String
  deriving DecidableEq, Repr

/-- The fields of an element file that says nothing. -/
def StoryFields.empty : StoryFields :=
  ⟨"", "", .empty, .replicate .empty, []⟩

/-- One element file. -/
structure StoryRecord where
  element : Element
  /-- The file's name without its ending. -/
  filename : String
  fields : StoryFields
  deriving DecidableEq, Repr

/-- The records of a manuscript, in manuscript order. -/
abbrev Story := List StoryRecord

/-- The records of one kind, in manuscript order. -/
def Story.ofKind (story : Story) (e : Element) : List StoryRecord :=
  story.filter fun r ↦ r.element = e

end Manuscript
