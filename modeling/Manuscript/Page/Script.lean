import Manuscript.Page.Prose

/-!
# The script

Acts are lines of dialogue, thoughts, voices from off the scene, sound effects or stage directions.
A scene opens with a banner of its stage, time and camera, and headings inside a scene are kept as
comments.
-/

namespace Manuscript

/-- The kinds of units of a script. -/
inductive ScriptUnit where
  | dialogue
  | monologue
  | voice
  /-- A sound effect. -/
  | effect
  /-- A stage direction. -/
  | direction
  deriving DecidableEq, Repr

/-- The records of a script, whose banners are scene heads. -/
abbrev ScriptPiece := Piece ScriptUnit SceneHead

/-- A scene head with the tags of camera, stage and time resolved. -/
def SceneHead.retag (r : Resolver) (head : SceneHead) : SceneHead :=
  { head with
    camera := r.subject head.camera, stage := r.subject head.stage, time := r.subject head.time }

namespace Script

def unitOf : Verb → ScriptUnit
  | .talk => .dialogue
  | .think => .monologue
  | .voice => .voice
  | .occur => .effect
  | _ => .direction

def renderUnit : ScriptUnit → String → String → String
  | .dialogue, s, t => s ++ Markdown.speech t
  | .monologue, s, t => s ++ "（Ｍ）" ++ Markdown.thought t
  | .voice, s, t => s ++ "（Ｖ）" ++ Markdown.speech t
  | .effect, _, t => "ＳＥ　" ++ t
  | .direction, _, t => t

/-- The banner of a scene: its stage, and its time and camera if they are known. -/
def renderBanner (head : SceneHead) : String :=
  "○" ++ head.stage
    ++ (if head.time = "" then "" else "（" ++ head.time ++ "）")
    ++ (if head.camera = "" then "" else "　［" ++ head.camera ++ "］")
    ++ "\n\n"

/-- The script as a prose format. -/
def genre : Genre ScriptUnit SceneHead where
  format := .script
  unitOf := unitOf
  indentable k := k = .direction
  banner? head := some head
  retagBanner r head := head.retag r
  keepsHeadings := true
  renderUnit := renderUnit
  renderBanner := renderBanner
  indent := "　　　"

end Script

end Manuscript
