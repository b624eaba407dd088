import Manuscript.Action.Basic
import Manuscript.Compile.SceneDate
import Manuscript.Page.Format
import Manuscript.Page.Layout
import Manuscript.Page.Markdown
import Manuscript.Tag.Resolver

/-!
# Prose formats

The novel and the script are made in the same way: the action stream is turned into pieces, tags are
resolved, pieces that show nothing are dropped, and the rest is laid out. A `Genre` holds what sets
them apart: the kinds of body units and the verbs that make them, what opens a scene, whether the
headings inside a scene are kept, and how units look.
-/

namespace Manuscript

/-- A record of a prose format, for given kinds of units and given scene banners. -/
inductive Piece (κ β : Type) where
  | title (element : Element) (text : String)
  /-- What stands at the start of a scene. -/
  | banner (banner : β)
  | comment (text : String)
  /-- A unit of body text, with the subject it belongs to. -/
  | unit (kind : κ) (subject text : String)
  /-- Body text that is shown as it stands. -/
  | plain (text : String)
  | paragraphStart
  | paragraphEnd
  | lineBreak
  | indent
  | sceneEnd
  deriving DecidableEq, Repr

/-- What sets a prose format apart. -/
structure Genre (κ β : Type) where
  format : Format
  /-- The kind of unit that an act with the verb makes. -/
  unitOf : Verb → κ
  /-- Whether units of the kind take an indent. -/
  indentable : κ → Bool
  /-- What opens a scene with the given facets. -/
  banner? : SceneHead → Option β
  /-- The banner with its tags resolved. -/
  retagBanner : Resolver → β → β
  /-- Whether headings inside a scene are kept, as comments. -/
  keepsHeadings : Bool
  /-- The text of a unit, given its subject. -/
  renderUnit : κ → String → String → String
  renderBanner : β → String
  indent : String

namespace Piece

variable {κ β : Type}

/-- Whether a piece is a comment or body text that shows nothing. -/
def isBlank : Piece κ β → Bool
  | comment t => Text.isBlankText t
  | unit _ _ t => Text.isBlankText t
  | plain t => Text.isBlankText t
  | _ => false

/-- Whether a piece belongs to the body, which titles, banners and comments do not. -/
def isBody : Piece κ β → Bool
  | unit _ _ _ => true
  | plain _ => true
  | indent => true
  | lineBreak => true
  | _ => false

end Piece

namespace Genre

variable {κ β : Type}

/-- The piece that a marker makes where the scene has the given facets, if it makes one. -/
def pieceOf? (g : Genre κ β) (head : SceneHead) : Marker → Option (Piece κ β)
  | .title e t => some (.title e t)
  | .heading t => if g.keepsHeadings then some (.comment t) else none
  | .facet _ _ => none
  | .sceneStart => (g.banner? head).map .banner
  | .sceneEnd => some .sceneEnd
  | .comment t => some (.comment t)
  | .instruction _ => none
  | .lineBreak => some .lineBreak
  | .paragraphStart => some .paragraphStart
  | .paragraphEnd => some .paragraphEnd
  | .text t => some (.plain t)

/-- The facets after a marker. -/
def nextHead (head : SceneHead) : Marker → SceneHead
  | .facet f t => head.set f t
  | _ => head

/-- The pieces of a stream, where the scene has the given facets. -/
def piecesFrom (g : Genre κ β) : SceneHead → List Action → List (Piece κ β)
  | _, [] => []
  | head, .act a :: rest =>
    .unit (g.unitOf a.verb) a.subject a.description :: g.piecesFrom head rest
  | head, .marker m :: rest =>
    (g.pieceOf? head m).toList ++ g.piecesFrom (nextHead head m) rest

/-- The pieces of a stream, with tags not yet resolved. -/
def pieces (g : Genre κ β) (actions : List Action) : List (Piece κ β) :=
  g.piecesFrom .blank actions

/-- The piece with its tags resolved. Comments are left as they are. -/
def retag (g : Genre κ β) (r : Resolver) : Piece κ β → Piece κ β
  | .title e t => .title e (r.text "" t)
  | .banner b => .banner (g.retagBanner r b)
  | .unit k s t => .unit k (r.subject s) (r.text s t)
  | .plain t => .plain (r.text "" t)
  | p => p

/-- The part that a piece takes in the layout. -/
def flow (g : Genre κ β) : Piece κ β → Flow
  | .title _ _ => .title
  | .banner _ => .title
  | .comment _ => .passive
  | .unit k _ _ => .body (g.indentable k)
  | .plain _ => .body false
  | .paragraphStart => .paragraphStart
  | .paragraphEnd => .paragraphEnd
  | .lineBreak => .lineBreak
  | .indent => .passive
  | .sceneEnd => .boundary

/-- How pieces take part in the layout. -/
def flowing (g : Genre κ β) : Flowing (Piece κ β) :=
  ⟨g.flow, .lineBreak, .indent⟩

/-- The pieces of a stream that show something, with their tags resolved. -/
def shownPieces (g : Genre κ β) (r : Resolver) (actions : List Action) : List (Piece κ β) :=
  ((g.pieces actions).map (g.retag r)).filter fun p ↦ !p.isBlank

/-- The records of a prose format for a stream. -/
def project (g : Genre κ β) (r : Resolver) (actions : List Action) :
    Except Error (List (Piece κ β)) :=
  if actions.isEmpty then .error (.emptyInput g.format.name)
  else (g.format.nonEmpty (g.shownPieces r actions)).map g.flowing.layout

/-- The text of a record. -/
def renderPiece (g : Genre κ β) : Piece κ β → String
  | .title e t => Markdown.heading e t
  | .banner b => g.renderBanner b
  | .comment t => Markdown.comment t
  | .unit k s t => g.renderUnit k s t
  | .plain t => t
  | .paragraphStart => ""
  | .paragraphEnd => ""
  | .lineBreak => "\n"
  | .indent => g.indent
  | .sceneEnd => ""

/-- The page of a prose format. -/
def render (g : Genre κ β) (records : List (Piece κ β)) : String :=
  Markdown.page (records.map g.renderPiece)

/-- The body text without titles, banners and comments, which is what is counted. -/
def body (g : Genre κ β) (records : List (Piece κ β)) : String :=
  Markdown.concat ((records.filter Piece.isBody).map g.renderPiece)

end Genre

end Manuscript
