import Manuscript.Action.Verb
import Manuscript.Story.Record

/-!
# The action stream

A manuscript is compiled into a flat stream of items. An item is a control marker or an act. Before
the fields left to be the same are resolved the acts are drafts; afterwards every field has its
text, so the two streams differ in their type of acts and share their markers.
-/

namespace Manuscript

/-- An author's instruction, as written in a scene body. -/
structure Instruction where
  name : String
  arg : Option String
  deriving DecidableEq, Repr

/-- The control markers of a stream. -/
inductive Marker where
  /-- The title of an element. -/
  | title (element : Element) (text : String)
  /-- A heading inside a scene. -/
  | heading (text : String)
  /-- A facet of the scene that follows. -/
  | facet (facet : Facet) (text : String)
  | sceneStart
  | sceneEnd
  | comment (text : String)
  | instruction (instruction : Instruction)
  | lineBreak
  | paragraphStart
  | paragraphEnd
  /-- Text that is shown as it stands. -/
  | text (text : String)
  deriving DecidableEq, Repr

/-- An act as written: its verb, subject and outline may be the same as in the act before. -/
structure Draft where
  verb : Slot Verb
  subject : Slot String
  outline : Slot String
  description : String
  flags : List String
  note : String
  deriving DecidableEq, Repr

/-- An act. -/
structure Act where
  verb : Verb
  subject : String
  outline : String
  description : String
  flags : List String
  note : String
  deriving DecidableEq, Repr

/-- The act with its outline, description and note mapped. -/
def Act.mapText (f : String → String) (a : Act) : Act :=
  { a with outline := f a.outline, description := f a.description, note := f a.note }

/-- A marker or an act of a given type. -/
inductive Item (α : Type) where
  | marker (marker : Marker)
  | act (act : α)
  deriving DecidableEq, Repr

namespace Item

variable {α : Type}

def marker? : Item α → Option Marker
  | marker m => some m
  | act _ => none

def act? : Item α → Option α
  | marker _ => none
  | act a => some a

end Item

/-- An item of a stream that is not yet resolved. -/
abbrev RawAction := Item Draft

/-- An item of a resolved stream. -/
abbrev Action := Item Act

end Manuscript
