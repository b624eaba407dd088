import Manuscript.Page.Prose

/-!
# The novel

Acts are told as narration, speech or thought. Scenes have no banner, and headings inside a scene
are left out.
-/

namespace Manuscript

/-- The kinds of units of a novel. -/
inductive NovelUnit where
  | description
  | dialogue
  | monologue
  deriving DecidableEq, Repr

/-- The records of a novel, which has no banners. -/
abbrev NovelPiece := Piece NovelUnit Empty

namespace Novel

def unitOf : Verb → NovelUnit
  | .talk => .dialogue
  | .voice => .dialogue
  | .think => .monologue
  | _ => .description

def renderUnit : NovelUnit → String → String
  | .description, t => t
  | .dialogue, t => Markdown.speech t
  | .monologue, t => Markdown.thought t

/-- The novel as a prose format. -/
def genre : Genre NovelUnit Empty where
  format := .novel
  unitOf := unitOf
  indentable k := k = .description
  banner? _ := none
  retagBanner _ b := b
  keepsHeadings := false
  renderUnit k _ t := renderUnit k t
  renderBanner b := nomatch b
  indent := "　"

end Novel

end Manuscript
