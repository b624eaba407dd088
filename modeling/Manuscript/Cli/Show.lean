import Manuscript.Action.Codec
import Manuscript.Datum.Json
import Manuscript.Story.Codec
import Manuscript.Text.Quoted

/-!
# Showing streams and tables

The compiled stream and the tag table are shown as JSON or with one line for every item or entry. In
a line an act shows its fields; a marker shows its name and, in quotes, its content.
-/

namespace Manuscript.Cli

/-- A text that may be missing. -/
def optionText : Option String → String
  | some s => "Some(" ++ Text.quoted s ++ ")"
  | none => "None"

/-- An instruction by its fields. -/
def instructionText (i : Instruction) : String :=
  "Instruction \x7b name: " ++ Text.quoted i.name ++ ", arg: " ++ optionText i.arg ++ " \x7d"

/-- A name with its content in brackets. -/
def named (name content : String) : String :=
  name ++ "(" ++ content ++ ")"

/-- The line of a marker. -/
def markerLine : Marker → String
  | .title e t => named e.titleName (Text.quoted t)
  | .heading t => named "SceneHead" (Text.quoted t)
  | .facet f t => named f.markerName (Text.quoted t)
  | .sceneStart => "--- scene start"
  | .sceneEnd => "--- scene end"
  | .comment t => named "Comment" (Text.quoted t)
  | .instruction i => named "Instruction" (instructionText i)
  | .lineBreak => "Br"
  | .paragraphStart => "ParagraphStart"
  | .paragraphEnd => "ParagraphEnd"
  | .text t => named "Text" (Text.quoted t)

/-- The line of an act. Flags and note are left out if there are none. -/
def actLine (a : Act) : String :=
  "  [" ++ a.verb.name ++ "] " ++ a.subject ++ " | " ++ a.outline ++ " | " ++ a.description
    ++ (if a.flags.isEmpty then "" else " (" ++ String.intercalate "," a.flags ++ ")")
    ++ (if a.note = "" then "" else " # " ++ a.note)

/-- The line of an item. -/
def itemLine : Action → String
  | .marker m => markerLine m
  | .act a => actLine a

/-- Lines, each with its end. -/
def linesText (lines : List String) : String :=
  String.join (lines.map fun line ↦ line ++ "\n")

/-- A stream as JSON text. -/
def streamJson (actions : List Action) : String :=
  (Datum.list (actions.map Action.toDatum)).pretty

/-- A table as lines of keys and values. -/
def tableLines (t : Table String) : String :=
  linesText (t.toList.map fun e ↦ e.1 ++ "\t" ++ e.2)

end Manuscript.Cli
