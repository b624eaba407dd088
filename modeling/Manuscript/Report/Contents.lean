import Manuscript.Story.Record
import Manuscript.Tag.Resolver

/-!
# The table of contents

Chapters are numbered through the manuscript, episodes within a chapter and scenes within an
episode. A number counts what came before it, so a scene in front of every chapter lies in chapter
zero.
-/

namespace Manuscript

/-- The counters of chapter, episode and scene. -/
structure Numbering where
  chapter : Nat
  episode : Nat
  scene : Nat
  deriving DecidableEq, Repr

namespace Numbering

/-- The counters before the first record. -/
def start : Numbering := ⟨0, 0, 0⟩

/-- The counters at a record of the given kind. -/
def advance (n : Numbering) : Element → Numbering
  | .book => n
  | .chapter => ⟨n.chapter + 1, 0, 0⟩
  | .episode => ⟨n.chapter, n.episode + 1, 0⟩
  | .scene => ⟨n.chapter, n.episode, n.scene + 1⟩

/-- The number of a record of the given kind, from the outermost counter to its own. A book has
none. -/
def path (n : Numbering) : Element → List Nat
  | .book => []
  | .chapter => [n.chapter]
  | .episode => [n.chapter, n.episode]
  | .scene => [n.chapter, n.episode, n.scene]

end Numbering

/-- A line of the table of contents. -/
structure ContentsEntry where
  element : Element
  /-- The number with its parts joined by hyphens; nothing for the book. -/
  number : String
  title : String
  deriving DecidableEq, Repr

namespace Contents

/-- A number as text. -/
def numberText (path : List Nat) : String :=
  String.intercalate "-" (path.map Nat.repr)

/-- The entries of a story, after records that left the given counters. -/
def entriesFrom (r : Resolver) : Numbering → Story → List ContentsEntry
  | _, [] => []
  | n, s :: rest =>
    let n' := n.advance s.element
    ⟨s.element, numberText (n'.path s.element), r.text "" s.fields.title⟩ :: entriesFrom r n' rest

/-- The table of contents of a story. -/
def project (r : Resolver) (story : Story) : List ContentsEntry :=
  entriesFrom r .start story

/-- A list item at a depth. -/
def item (depth : Nat) (e : ContentsEntry) : String :=
  String.ofList (List.replicate (2 * depth) ' ') ++ "- " ++ e.number ++ ". " ++ e.title ++ "\n"

/-- The line of an entry. -/
def line (e : ContentsEntry) : String :=
  match e.element with
  | .book => "# " ++ e.title ++ "\n\n"
  | .chapter => item 0 e
  | .episode => item 1 e
  | .scene => item 2 e

/-- The table of contents as text. -/
def render (entries : List ContentsEntry) : String :=
  String.join (entries.map line)

end Contents

end Manuscript
