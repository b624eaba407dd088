import Manuscript.Action.Basic
import Manuscript.Text.Split

/-!
# Lines of a scene body

A line is told by how it begins: `# ` makes a comment, `## ` a heading, `#! ` an instruction, and
`[` an act whose bracket holds subject, verb, outline and flags between colons, followed by the
description and, after `# `, a note. Any other line is prose. A blank line says nothing, and neither
does an act whose verb is unknown.
-/

namespace Manuscript

/-- Prose without a subject. -/
def Draft.prose (text : String) : Draft :=
  ⟨.given .do, .given "", .given "", text, [], ""⟩

/-- What follows a closed bracket at the start of a line, and what the bracket holds. The bracket
ends at its first `]`, and no line feed may follow it. -/
def bracket? : List Char → Option (List Char × List Char)
  | '[' :: cs =>
    match Text.cutAt [']'] cs with
    | some (head, tail) => if '\n' ∈ tail then none else some (head, tail)
    | none => none
  | _ => none

/-- The description and the note behind a bracket. -/
def descriptionAndNote (tail : String) : String × String :=
  match Text.splitOnce "# " tail with
  | some (description, note) => (Text.trim description, Text.trim note)
  | none => (Text.trim tail, "")

/-- The act that a bracket's content and the text behind it spell, if its verb is known. -/
def Draft.ofBracket? (head tail : String) : Option Draft :=
  let cells := Text.fields ':' head
  let flags := ((cells.drop 3).map Text.trim).filter (· ≠ "")
  let (description, note) := descriptionAndNote tail
  (Slot.verbOfText? (cells.getD 1 "")).map fun verb ↦
    ⟨verb, .ofText (cells.getD 0 ""), .ofText (cells.getD 2 ""), description, flags, note⟩

/-- Reads an instruction: a name up to the first space, and the rest as its argument. -/
def Instruction.ofText (rest : String) : Instruction :=
  match Text.splitOnce " " rest with
  | some (name, arg) => ⟨name, some (Text.trim arg)⟩
  | none => ⟨rest, none⟩

/-- Reads a line without trailing blanks that is not blank. -/
def readLine? (line : String) : Option RawAction :=
  match Text.afterPrefix? "# " line with
  | some rest => some (.marker (.comment (Text.trim rest)))
  | none =>
  match Text.afterPrefix? "## " line with
  | some rest => some (.marker (.heading (Text.trim rest)))
  | none =>
  match Text.afterPrefix? "#! " line with
  | some rest => some (.marker (.instruction (.ofText (Text.trim rest))))
  | none =>
  match bracket? line.toList with
  | some (head, tail) => (Draft.ofBracket? (String.ofList head) (String.ofList tail)).map .act
  | none => some (.act (.prose (Text.trim line)))

/-- Reads one line of a scene body. -/
def parseLine? (line : String) : Option RawAction :=
  if Text.isBlankText line then none else readLine? (Text.trimEnd line)

end Manuscript
