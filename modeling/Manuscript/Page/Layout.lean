/-!
# Breaking lines

Outside a paragraph every unit of body text stands on a line of its own, behind an indent if it
takes one. Inside a paragraph units run on, and only the first may be indented. A paragraph is
closed by its end, a break, a title, the end of a scene, the start of another paragraph or the end
of the text, and closing it breaks the line exactly if it held a unit. Other records pass through.
-/

namespace Manuscript

/-- The part that a record takes in the layout. -/
inductive Flow where
  | title
  /-- Body text, which may take an indent. -/
  | body (indentable : Bool)
  | paragraphStart
  | paragraphEnd
  | lineBreak
  /-- The end of a scene. -/
  | boundary
  /-- A record that the layout leaves alone. -/
  | passive
  deriving DecidableEq, Repr

/-- How records take part in the layout, and the records that the layout puts in. -/
structure Flowing (α : Type) where
  flow : α → Flow
  lineBreak : α
  indent : α

/-- Whether a paragraph is open, and whether it has held a unit. -/
inductive ParagraphState where
  | outside
  | inside (produced : Bool)
  deriving DecidableEq, Repr

namespace Flowing

variable {α : Type}

/-- What closing the paragraph puts in. -/
def closing (φ : Flowing α) : ParagraphState → List α
  | .inside true => [φ.lineBreak]
  | .inside false => []
  | .outside => []

/-- The indent before a unit that takes one, unless the paragraph has held a unit. -/
def indentFor (φ : Flowing α) (indentable produced : Bool) : List α :=
  if indentable && !produced then [φ.indent] else []

/-- The laid out records, from a state of the paragraph on. -/
def layoutFrom (φ : Flowing α) : ParagraphState → List α → List α
  | s, [] => φ.closing s
  | s, r :: rs =>
    match φ.flow r, s with
    | .title, s => φ.closing s ++ r :: φ.layoutFrom .outside rs
    | .boundary, s => φ.closing s ++ r :: φ.layoutFrom .outside rs
    | .paragraphStart, s => φ.closing s ++ φ.layoutFrom (.inside false) rs
    | .paragraphEnd, s => φ.closing s ++ φ.layoutFrom .outside rs
    | .lineBreak, .outside => φ.lineBreak :: φ.layoutFrom .outside rs
    | .lineBreak, s => φ.closing s ++ φ.layoutFrom .outside rs
    | .body indentable, .outside =>
      φ.indentFor indentable false ++ r :: φ.lineBreak :: φ.layoutFrom .outside rs
    | .body indentable, .inside produced =>
      φ.indentFor indentable produced ++ r :: φ.layoutFrom (.inside true) rs
    | .passive, s => r :: φ.layoutFrom s rs

/-- The laid out records. -/
def layout (φ : Flowing α) (records : List α) : List α :=
  φ.layoutFrom .outside records

end Flowing

end Manuscript
