import Manuscript.Action.Codec
import Manuscript.Page.Info
import Manuscript.Page.Novel
import Manuscript.Page.Outline
import Manuscript.Page.Plot
import Manuscript.Story.Codec

/-!
# Records of the formats as data

The records of every format as they are written to messages and read from them. A record without
content is its name, and one with content stands under its name.
-/

namespace Manuscript

namespace SceneHead

def toDatum (head : SceneHead) : Datum :=
  .ofPairs
    [("camera", .text head.camera), ("stage", .text head.stage), ("year", .text head.year),
     ("date", .text head.date), ("time", .text head.time)]

/-- Reads a scene head, in which a facet that is absent is empty. -/
def ofDatum (d : Datum) : SceneHead :=
  ⟨d.textAt "camera", d.textAt "stage", d.textAt "year", d.textAt "date", d.textAt "time"⟩

end SceneHead

/-- Reads the element whose title has the given name. -/
def Element.ofTitleName? (name : String) : Option Element :=
  Element.all.find? fun e ↦ e.titleName = name

/-- The names of the kinds of units of a prose format, and the form of its banners. -/
structure PieceNames (κ β : Type) where
  kinds : List (κ × String)
  bannerToDatum : β → Datum
  bannerOfDatum? : Datum → Option β

namespace PieceNames

variable {κ β : Type} [DecidableEq κ]

/-- The name of a kind of unit. -/
def nameOf (n : PieceNames κ β) (k : κ) : String :=
  (n.kinds.lookup k).getD ""

/-- The kind of unit with a name. -/
def kindOf? (n : PieceNames κ β) (name : String) : Option κ :=
  (n.kinds.find? fun e ↦ e.2 = name).map Prod.fst

def toDatum (n : PieceNames κ β) : Piece κ β → Datum
  | .title e t => .variant e.titleName (.text t)
  | .banner b => .variant "Spin" (n.bannerToDatum b)
  | .comment t => .variant "Comment" (.text t)
  | .unit k s t => .variant (n.nameOf k) (.ofPairs [("subject", .text s), ("text", .text t)])
  | .plain t => .variant "Plain" (.text t)
  | .paragraphStart => .text "ParagraphStart"
  | .paragraphEnd => .text "ParagraphEnd"
  | .lineBreak => .text "Br"
  | .indent => .text "Indent"
  | .sceneEnd => .text "SceneEnd"

/-- Reads a piece without content. -/
def ofName? (name : String) : Option (Piece κ β) :=
  if name = "ParagraphStart" then some .paragraphStart
  else if name = "ParagraphEnd" then some .paragraphEnd
  else if name = "Br" then some .lineBreak
  else if name = "Indent" then some .indent
  else if name = "SceneEnd" then some .sceneEnd
  else none

/-- Reads a piece whose content is a text. -/
def ofNameAndText? (name t : String) : Option (Piece κ β) :=
  if name = "Comment" then some (.comment t)
  else if name = "Plain" then some (.plain t)
  else (Element.ofTitleName? name).map fun e ↦ .title e t

/-- Reads a piece. -/
def ofDatum? (n : PieceNames κ β) (d : Datum) : Option (Piece κ β) :=
  match d with
  | .text name => ofName? name
  | d => do
    let (name, content) ← d.variant?
    match content with
    | .text t => ofNameAndText? name t
    | _ =>
      if name = "Spin" then (n.bannerOfDatum? content).map .banner
      else do some (.unit (← n.kindOf? name) (content.textAt "subject") (content.textAt "text"))

end PieceNames

/-- The names of the records of a novel. -/
def Novel.names : PieceNames NovelUnit Empty where
  kinds := [(.description, "Description"), (.dialogue, "Dialogue"), (.monologue, "Monologue")]
  bannerToDatum b := nomatch b
  bannerOfDatum? _ := none

/-- The names of the records of a script. -/
def Script.names : PieceNames ScriptUnit SceneHead where
  kinds := [(.dialogue, "Dialogue"), (.monologue, "Monologue"), (.voice, "Voice"),
    (.effect, "Se"), (.direction, "Action")]
  bannerToDatum := SceneHead.toDatum
  bannerOfDatum? d := some (SceneHead.ofDatum d)

/-- The name of a mark. -/
def Mark.name : Mark → String
  | .changed => "Changed"
  | .unchanged => "Unchanged"

/-- Reads a mark by its name. -/
def Mark.ofDatum? (d : Datum) : Option Mark :=
  [Mark.changed, .unchanged].find? fun m ↦ some m.name = d.text?

namespace SceneInfo

def toDatum (i : SceneInfo) : Datum :=
  .ofPairs (i.sections.map fun section_ ↦ (section_.1, .ofTexts section_.2))

def ofDatum (d : Datum) : SceneInfo where
  persons := d.textsAt "persons"
  entering := d.textsAt "entering"
  leaving := d.textsAt "leaving"
  gained := d.textsAt "gained"
  lost := d.textsAt "lost"
  placed := d.textsAt "placed"
  removed := d.textsAt "removed"
  events := d.textsAt "events"

end SceneInfo

namespace InfoRecord

def toDatum : InfoRecord → Datum
  | title e t => .variant e.titleName (.text t)
  | transition head marks =>
    .variant "Transition"
      (.ofPairs [("head", head.toDatum), ("marks", .ofTexts (marks.map Mark.name).toList)])
  | comment t => .variant "Comment" (.text t)
  | act v s t =>
    .variant "Action"
      (.ofPairs [("act_type", .text v.name), ("subject", .text s), ("text", .text t)])
  | info i => .variant "Info" i.toDatum

/-- Reads the five marks of a transition. -/
def marksOfDatum? (d : Datum) : Option (SceneSheet Mark) := do
  match ← (← d.items?).mapM Mark.ofDatum? with
  | [camera, stage, year, date, time] => some ⟨camera, stage, year, date, time⟩
  | _ => none

/-- Reads a record of the scene information. -/
def ofDatum? (d : Datum) : Option InfoRecord := do
  let (name, content) ← d.variant?
  if name = "Comment" then content.text?.map comment
  else if name = "Transition" then do
    some (transition (.ofDatum (← content.field? "head"))
      (← marksOfDatum? (← content.field? "marks")))
  else if name = "Action" then do
    let verb ← Verb.ofName? (content.textAt "act_type")
    some (act verb (content.textAt "subject") (content.textAt "text"))
  else if name = "Info" then some (info (.ofDatum content))
  else do some (title (← Element.ofTitleName? name) (← content.text?))

end InfoRecord

/-- Reads an element by its exact name. -/
def Element.ofDatum? (d : Datum) : Option Element :=
  Element.all.find? fun e ↦ some e.name = d.text?

namespace OutlineRecord

def toDatum (o : OutlineRecord) : Datum :=
  .ofPairs
    [("element", .text o.element.name), ("title", .text o.title), ("outline", .text o.outline)]

def ofDatum? (d : Datum) : Option OutlineRecord := do
  some ⟨← Element.ofDatum? (← d.field? "element"), d.textAt "title", d.textAt "outline"⟩

end OutlineRecord

namespace PlotRecord

def toDatum (p : PlotRecord) : Datum :=
  .ofPairs
    [("element", .text p.element.name), ("title", .text p.title), ("plot", p.plot.toDatum)]

def ofDatum? (d : Datum) : Option PlotRecord := do
  some
    ⟨← Element.ofDatum? (← d.field? "element"), d.textAt "title",
      ← Plot.ofDatum? ((d.field? "plot").getD .null)⟩

end PlotRecord

end Manuscript
