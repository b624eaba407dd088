import Manuscript.Action.Basic

/-!
# Carrying fields forward

The second pass gives every act its own verb, subject, outline and note. A field left to be the same
takes the value of the act before in the same scene; the memory of that act is lost at every scene
start. An act whose verb is the same as that of no act is dropped.
-/

namespace Manuscript

/-- The act that a draft becomes after the given act, if it becomes one. An act that takes its verb
from the act before and has no note of its own takes that note too. -/
def Draft.resolve? (previous : Option Act) (d : Draft) : Option Act :=
  let subject := d.subject.resolve ((previous.map Act.subject).getD "")
  let outline := d.outline.resolve ((previous.map Act.outline).getD "")
  match d.verb, previous with
  | .given v, _ => some ⟨v, subject, outline, d.description, d.flags, d.note⟩
  | .same, some p =>
    some ⟨p.verb, subject, outline, d.description, d.flags, if d.note = "" then p.note else d.note⟩
  | .same, none => none

/-- The resolved stream after an act of the same scene, if there is one. -/
def resolveSameFrom : Option Act → List RawAction → List Action
  | _, [] => []
  | previous, .marker m :: rest =>
    .marker m :: resolveSameFrom (if m = .sceneStart then none else previous) rest
  | previous, .act d :: rest =>
    match d.resolve? previous with
    | some a => .act a :: resolveSameFrom (some a) rest
    | none => resolveSameFrom previous rest

/-- The resolved stream of a raw stream. -/
def resolveSame (raw : List RawAction) : List Action :=
  resolveSameFrom none raw

end Manuscript
