import Manuscript.Action.Line
import Manuscript.Compile.SceneDate

/-!
# The raw stream

The first pass of compilation turns each record into its block of the stream. A book, chapter or
episode gives its title. A scene gives its title, its five resolved facets, and its body lines
between a start and an end marker. The resolved facets of a scene are carried to the next.
-/

namespace Manuscript

/-- The markers that open a scene with the given title and facets. -/
def sceneOpening (title : String) (head : SceneHead) : List Marker :=
  .title .scene title :: Facet.all.map (fun f ↦ .facet f (head.get f)) ++ [.sceneStart]

/-- The block of a scene whose facets are resolved. -/
def sceneBlock (fields : StoryFields) (head : SceneHead) : List RawAction :=
  (sceneOpening fields.title head).map .marker ++ fields.body.filterMap parseLine?
    ++ [.marker .sceneEnd]

/-- The raw stream of a story, after a scene with the given facets. -/
def rawActionsFrom : SceneHead → Story → List RawAction
  | _, [] => []
  | previous, r :: rs =>
    match r.element with
    | .scene =>
      let head := resolveScene previous r.fields.scene
      sceneBlock r.fields head ++ rawActionsFrom head rs
    | e => .marker (.title e r.fields.title) :: rawActionsFrom previous rs

/-- The raw stream of a story. -/
def rawActions (story : Story) : List RawAction :=
  rawActionsFrom .blank story

end Manuscript
