import Manuscript.Action.Basic
import Manuscript.Datum.Basic

/-!
# Streams as data

Markers, drafts and acts as they are written to dumps and messages, and read from messages. A marker
without content is its name; one with content stands under its name.
-/

namespace Manuscript

namespace Datum

/-- A text field, where one that is absent has the empty text. -/
def textAt (d : Datum) (key : String) : String :=
  ((d.field? key).bind text?).getD ""

/-- A list of texts, where one that is absent is empty. -/
def textsAt (d : Datum) (key : String) : List String :=
  (((d.field? key).bind items?).getD []).filterMap text?

end Datum

/-- The name of the marker of an element's title. -/
def Element.titleName : Element → String
  | .book => "BookTitle"
  | .chapter => "ChapterTitle"
  | .episode => "EpisodeTitle"
  | .scene => "SceneTitle"

/-- The name of the marker of a facet. -/
def Facet.markerName : Facet → String
  | .camera => "SceneCamera"
  | .stage => "SceneStage"
  | .year => "SceneYear"
  | .date => "SceneDate"
  | .time => "SceneTime"

namespace Instruction

def toDatum (i : Instruction) : Datum :=
  .ofPairs [("name", .text i.name), ("arg", (i.arg.map .text).getD .null)]

def ofDatum? (d : Datum) : Option Instruction := do
  some ⟨← (← d.field? "name").text?, (d.field? "arg").bind Datum.text?⟩

end Instruction

namespace Marker

def toDatum : Marker → Datum
  | title e t => .variant e.titleName (.text t)
  | heading t => .variant "SceneHead" (.text t)
  | facet f t => .variant f.markerName (.text t)
  | sceneStart => .text "SceneStart"
  | sceneEnd => .text "SceneEnd"
  | comment t => .variant "Comment" (.text t)
  | instruction i => .variant "Instruction" i.toDatum
  | lineBreak => .text "Br"
  | paragraphStart => .text "ParagraphStart"
  | paragraphEnd => .text "ParagraphEnd"
  | text t => .variant "Text" (.text t)

/-- Reads a marker without content. -/
def ofName? (name : String) : Option Marker :=
  [sceneStart, sceneEnd, lineBreak, paragraphStart, paragraphEnd].find? fun m ↦
    m.toDatum.text? = some name

/-- Reads a marker whose content is a text. -/
def ofNameAndText? (name t : String) : Option Marker :=
  let titles := Element.all.map fun e ↦ title e t
  let facets := Facet.all.map fun f ↦ facet f t
  (titles ++ facets ++ [heading t, comment t, text t]).find? fun m ↦
    (m.toDatum.variant?.map Prod.fst) = some name

/-- Reads a marker. -/
def ofDatum? (d : Datum) : Option Marker :=
  match d with
  | .text name => ofName? name
  | d => do
    let (name, content) ← d.variant?
    if name = "Instruction" then (Instruction.ofDatum? content).map instruction
    else ofNameAndText? name (← content.text?)

end Marker

/-- Reads a verb by its exact name. -/
def Verb.ofName? (name : String) : Option Verb :=
  Verb.all.find? fun v ↦ v.name = name

namespace Slot

def verbToDatum : Slot Verb → Datum
  | same => .text "Same"
  | given v => .variant "Act" (.text v.name)

def textToDatum : Slot String → Datum
  | same => .text "Same"
  | given s => .variant "Value" (.text s)

def verbOfDatum? : Datum → Option (Slot Verb)
  | .text _ => some same
  | d => do (Verb.ofName? (← (← d.field? "Act").text?)).map given

def textOfDatum? : Datum → Option (Slot String)
  | .text _ => some same
  | d => do some (given (← (← d.field? "Value").text?))

end Slot

namespace Draft

def toDatum (d : Draft) : Datum :=
  .ofPairs
    [("verb", d.verb.verbToDatum), ("subject", d.subject.textToDatum),
     ("outline", d.outline.textToDatum), ("description", .text d.description),
     ("flags", .ofTexts d.flags), ("note", .text d.note)]

def ofDatum? (d : Datum) : Option Draft := do
  some
    { verb := ← Slot.verbOfDatum? (← d.field? "verb")
      subject := ← Slot.textOfDatum? (← d.field? "subject")
      outline := ← Slot.textOfDatum? (← d.field? "outline")
      description := d.textAt "description"
      flags := d.textsAt "flags"
      note := d.textAt "note" }

end Draft

namespace Act

def toDatum (a : Act) : Datum :=
  .ofPairs
    [("act_type", .text a.verb.name), ("subject", .text a.subject), ("outline", .text a.outline),
     ("description", .text a.description), ("flags", .ofTexts a.flags), ("note", .text a.note)]

def ofDatum? (d : Datum) : Option Act := do
  some
    { verb := ← Verb.ofName? (← (← d.field? "act_type").text?)
      subject := d.textAt "subject"
      outline := d.textAt "outline"
      description := d.textAt "description"
      flags := d.textsAt "flags"
      note := d.textAt "note" }

end Act

namespace Item

variable {α : Type}

/-- An item, given the form of its acts. -/
def toDatum (act : α → Datum) : Item α → Datum
  | marker m => .variant "Marker" m.toDatum
  | .act a => .variant "Act" (act a)

/-- Reads an item, given a reader of its acts. -/
def ofDatum? (act? : Datum → Option α) (d : Datum) : Option (Item α) := do
  let (name, content) ← d.variant?
  if name = "Marker" then (Marker.ofDatum? content).map marker
  else if name = "Act" then (act? content).map .act
  else none

end Item

/-- An item of a raw stream as data. -/
def RawAction.toDatum : RawAction → Datum := Item.toDatum Draft.toDatum

/-- Reads an item of a raw stream. -/
def RawAction.ofDatum? : Datum → Option RawAction := Item.ofDatum? Draft.ofDatum?

/-- An item of a resolved stream as data. -/
def Action.toDatum : Action → Datum := Item.toDatum Act.toDatum

/-- Reads an item of a resolved stream. -/
def Action.ofDatum? : Datum → Option Action := Item.ofDatum? Act.ofDatum?

end Manuscript
