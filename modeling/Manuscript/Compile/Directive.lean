import Manuscript.Action.Basic
import Manuscript.Tag.Substitute

/-!
# Carrying out instructions

The last pass of compilation carries out the authors' instructions. Paragraph and break
instructions become markers. An alias instruction `short=origin` leaves no item; from there to the
next scene start, an act whose subject is the short form gets the origin as its subject, and the
short form is replaced in its outline, description and note. Unknown instructions and
aliases that are not well formed leave nothing.
-/

namespace Manuscript

/-- The instructions that are known. -/
inductive Directive where
  | paragraphStart
  | paragraphEnd
  | lineBreak
  | alias
  deriving DecidableEq, Repr

/-- Reads an instruction's name, in any case of ASCII letters. -/
def Directive.ofText? (s : String) : Option Directive :=
  let token := Text.asciiLower s
  if token = "p" ∨ token = "pr" then some .paragraphStart
  else if token = "pe" ∨ token = "pend" then some .paragraphEnd
  else if token = "b" ∨ token = "br" then some .lineBreak
  else if token = "a" ∨ token = "alias" then some .alias
  else none

/-- The short form and the origin that an alias instruction's argument defines. -/
def aliasOfArg? (arg : String) : Option (String × String) :=
  match Text.splitOnce "=" arg with
  | some (short, origin) =>
    if Text.isBlankText short then none else some (Text.trim short, Text.trim origin)
  | none => none

/-- The marker that an instruction leaves in the stream, if it leaves one. -/
def Instruction.marker? (i : Instruction) : Option Marker :=
  match Directive.ofText? i.name with
  | some .paragraphStart => some .paragraphStart
  | some .paragraphEnd => some .paragraphEnd
  | some .lineBreak => some .lineBreak
  | some .alias => none
  | none => none

/-- The alias that an instruction defines, if it defines one. -/
def Instruction.alias? (i : Instruction) : Option (String × String) :=
  if Directive.ofText? i.name = some .alias then i.arg.bind aliasOfArg? else none

/-- The act with aliases replaced. -/
def Act.applyAliases (aliases : Table String) (a : Act) : Act :=
  let named := { a with subject := (aliases.get? a.subject).getD a.subject }
  named.mapText (Tag.substitute "" aliases)

/-- The stream with instructions carried out, under the aliases defined so far. -/
def applyInstructionsFrom : Table String → List Action → List Action
  | _, [] => []
  | aliases, .act a :: rest =>
    .act (a.applyAliases aliases) :: applyInstructionsFrom aliases rest
  | _, .marker .sceneStart :: rest =>
    .marker .sceneStart :: applyInstructionsFrom .empty rest
  | aliases, .marker (.instruction i) :: rest =>
    let aliases' := match i.alias? with
      | some (short, origin) => aliases.insert short origin
      | none => aliases
    (i.marker?.map Item.marker).toList ++ applyInstructionsFrom aliases' rest
  | aliases, .marker m :: rest => .marker m :: applyInstructionsFrom aliases rest

/-- The stream with instructions carried out. -/
def applyInstructions (actions : List Action) : List Action :=
  applyInstructionsFrom .empty actions

end Manuscript
