import Manuscript.Datum.Basic
import Manuscript.Story.Record
import Manuscript.Story.Reference

/-!
# Records as data

Story and reference records are read from the front matter of their files and are written to
messages. A text field takes any scalar, and unknown keys are passed over. The facets of a scene are
read from their written form and written by the name of their kind, so a written record is not in
general one that can be read again.
-/

namespace Manuscript

/-- The scalar text at a key. A key that is absent has the empty text. -/
def Datum.scalarAt? (es : List (Datum × Datum)) (key : String) : Option String :=
  match Datum.lookup key es with
  | some d => d.scalarText?
  | none => some ""

/-- Whether no record field of the given names is there twice. -/
def Datum.namesOnce (names : List String) (es : List (Datum × Datum)) : Bool :=
  names.all fun name ↦ es.countP (fun e ↦ e.1.keyText? = some name) ≤ 1

namespace SceneValue

/-- Reads a facet from the scalar that stands for it. -/
def ofDatum? (d : Datum) : Option SceneValue :=
  d.scalarText?.map ofText

/-- A facet by the name of its kind. -/
def toDatum : SceneValue → Datum
  | empty => .text "Empty"
  | text s => .variant "Value" (.text s)
  | same => .text "Same"
  | next .day => .text "NextDay"
  | next .week => .text "NextWeek"
  | next .month => .text "NextMonth"

end SceneValue

namespace Plot

/-- The names of the parts. -/
def partNames : List String := empty.parts.map Prod.fst

/-- Reads a plot. Nothing at all stands for the empty plot. -/
def ofDatum? (d : Datum) : Option Plot :=
  match d.untag with
  | .null => some empty
  | .map es =>
    if (es.all fun e ↦ e.1.keyText?.isSome) && Datum.namesOnce partNames es then do
      some ⟨← Datum.scalarAt? es "setup", ← Datum.scalarAt? es "tp1",
        ← Datum.scalarAt? es "develop", ← Datum.scalarAt? es "tp2",
        ← Datum.scalarAt? es "climax", ← Datum.scalarAt? es "resolve"⟩
    else none
  | _ => none

def toDatum (p : Plot) : Datum :=
  .ofPairs (p.parts.map fun part ↦ (part.1, .text part.2))

end Plot

namespace StoryFields

/-- The keys that have a meaning of their own in an element file. The facets of a scene and all
other keys are read as plain data, which has no tags. -/
def ownKeys : List String := ["title", "outline", "plot", "markdown"]

/-- The keys of the facets of a scene. -/
def facetKeys : List String := ["camera", "stage", "year", "date", "time"]

/-- Whether an entry of an element file can be read: its key is a text, and it is tagged only
under one of the keys that allow it. -/
def isReadableEntry (e : Datum × Datum) : Bool :=
  match e.1.keyText? with
  | some key => key ∈ ownKeys || !e.2.hasTag
  | none => false

/-- Reads the body lines, each a scalar. -/
def bodyOfDatum? : Datum → Option (List String)
  | .null => some []
  | .list ds => ds.mapM Datum.scalarText?
  | _ => none

/-- Reads the fields of an element file. -/
def ofEntries? (es : List (Datum × Datum)) : Option StoryFields :=
  if es.all isReadableEntry && Datum.namesOnce (ownKeys ++ facetKeys) es then do
    let facet := fun key : String ↦ SceneValue.ofDatum? ((Datum.lookup key es).getD .null)
    some
      { title := ← Datum.scalarAt? es "title"
        outline := ← Datum.scalarAt? es "outline"
        plot := ← Plot.ofDatum? ((Datum.lookup "plot" es).getD .null)
        scene := ⟨← facet "camera", ← facet "stage", ← facet "year", ← facet "date",
          ← facet "time"⟩
        body := ← bodyOfDatum? ((Datum.lookup "markdown" es).getD .null) }
  else none

/-- Reads the fields of an element file. -/
def ofDatum? (d : Datum) : Option StoryFields :=
  match d.untag with
  | .map es => ofEntries? es
  | _ => none

def toDatum (f : StoryFields) : Datum :=
  .ofPairs
    [("title", .text f.title), ("outline", .text f.outline), ("plot", f.plot.toDatum),
     ("camera", f.scene.camera.toDatum), ("stage", f.scene.stage.toDatum),
     ("year", f.scene.year.toDatum), ("date", f.scene.date.toDatum),
     ("time", f.scene.time.toDatum), ("markdown", .ofTexts f.body)]

end StoryFields

namespace StoryRecord

/-- Reads a story record. -/
def ofDatum? (d : Datum) : Option StoryRecord := do
  let name ← (← d.field? "element").text?
  some
    { element := ← Element.all.find? fun e ↦ e.name = name
      filename := ← (← d.field? "filename").text?
      fields := ← StoryFields.ofDatum? (← d.field? "data") }

def toDatum (r : StoryRecord) : Datum :=
  .ofPairs
    [("element", .text r.element.name), ("filename", .text r.filename),
     ("data", r.fields.toDatum)]

end StoryRecord

/-- A table of texts as a mapping. -/
def Table.toDatum (t : Table String) : Datum :=
  .ofPairs (t.toList.map fun e ↦ (e.1, .text e.2))

/-- Reads an entry of a table of texts. -/
def Table.textEntry? (e : Datum × Datum) : Option (String × String) := do
  some (← e.1.keyText?, ← e.2.keyText?)

/-- Reads a table of texts from a mapping with texts for keys and values. Nothing at all stands for
the empty table. -/
def Table.ofDatum? (d : Datum) : Option (Table String) :=
  match d.untag with
  | .null => some .empty
  | .map es =>
    (es.mapM Table.textEntry?).map Table.ofList
  | _ => none

namespace NameFields

/-- The keys that have a meaning in a reference file. -/
def ownKeys : List String := ["name", "fullname", "calling", "me"]

/-- Reads the fields of a reference file. -/
def ofEntries? (es : List (Datum × Datum)) : Option NameFields :=
  if (es.all fun e ↦ e.1.keyText?.isSome) && Datum.namesOnce ownKeys es then do
    some
      { name := ← Datum.scalarAt? es "name"
        fullname := ← Datum.scalarAt? es "fullname"
        calling := ← Table.ofDatum? ((Datum.lookup "calling" es).getD .null)
        me := ← match Datum.lookup "me" es with
          | none => some none
          | some .null => some none
          | some d => d.keyText?.map some }
  else none

/-- Reads the fields of a reference file. -/
def ofDatum? (d : Datum) : Option NameFields :=
  match d.untag with
  | .map es => ofEntries? es
  | _ => none

def toDatum (f : NameFields) : Datum :=
  .ofPairs
    [("name", .text f.name), ("fullname", .text f.fullname), ("calling", f.calling.toDatum),
     ("me", (f.me.map .text).getD .null)]

end NameFields

/-- The name of a kind of reference material in messages. -/
def NameKind.variantName : NameKind → String
  | .person => "Person"
  | .stage => "Stage"
  | .item => "Item"
  | .word => "Word"
  | .event => "Event"
  | .time => "Time"

namespace NameRecord

/-- Reads a reference record. -/
def ofDatum? (d : Datum) : Option NameRecord := do
  let kind ← (← d.field? "kind").text?
  some
    { kind := ← NameKind.all.find? fun k ↦ k.variantName = kind
      basename := ← (← d.field? "basename").text?
      fields := ← NameFields.ofDatum? (← d.field? "fields") }

def toDatum (r : NameRecord) : Datum :=
  .ofPairs
    [("kind", .text r.kind.variantName), ("basename", .text r.basename),
     ("fields", r.fields.toDatum)]

end NameRecord

end Manuscript
