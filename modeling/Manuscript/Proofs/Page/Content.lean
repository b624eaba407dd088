import Manuscript.Page.Novel
import Manuscript.Page.Script
import Manuscript.Proofs.Page.Prose

/-!
# What a prose format tells

The body text and the comments of a prose format are those of the stream, in the same order: no text
is lost, told twice or moved, and none that shows nothing is left. An act is told by its subject and
its description with their tags resolved, a text as it stands with its tags resolved, and a comment
as it stands; the script takes headings for comments too.

The proof has two halves, one for each thing that could go wrong. Making pieces, resolving tags and
dropping blank pieces works on one item at a time (`filterMap_told?_run`), and the layout moves no
piece that tells something (`sees_told?`).
-/

namespace Manuscript

/-- What a prose format tells: body text, with its subject if it has one, and comments. -/
inductive Told (κ : Type) where
  | unit (kind : κ) (subject text : String)
  | plain (text : String)
  | comment (text : String)
  deriving DecidableEq, Repr

/-- The text that is told. -/
def Told.text {κ : Type} : Told κ → String
  | unit _ _ t => t
  | plain t => t
  | comment t => t

/-- What a piece tells, if it is body text or a comment. -/
def Piece.told? {κ β : Type} : Piece κ β → Option (Told κ)
  | unit k s t => some (.unit k s t)
  | plain t => some (.plain t)
  | comment t => some (.comment t)
  | _ => none

/-- What an item of a stream has to tell, with its tags resolved. Headings are comments or left
out. -/
def Item.telling? {κ : Type} (unitOf : Verb → κ) (keepsHeadings : Bool) (r : Resolver) :
    Action → Option (Told κ)
  | .act a =>
    some (.unit (unitOf a.verb) (r.subject a.subject) (r.text a.subject a.description))
  | .marker (.text t) => some (.plain (r.text "" t))
  | .marker (.comment t) => some (.comment t)
  | .marker (.heading t) => if keepsHeadings then some (.comment t) else none
  | .marker _ => none

/-- What a stream tells, less what shows nothing. -/
def tellings {κ : Type} (unitOf : Verb → κ) (keepsHeadings : Bool) (r : Resolver)
    (actions : List Action) : List (Told κ) :=
  (actions.filterMap (Item.telling? unitOf keepsHeadings r)).filter fun t ↦
    !Text.isBlankText t.text

namespace Genre

variable {κ β : Type} (g : Genre κ β) (r : Resolver)

/-- The layout neither puts in nor takes out a piece that tells something. -/
theorem sees_told? : Flowing.Sees g.flowing (Piece.told? (κ := κ) (β := β)) where
  lineBreak := rfl
  indent := rfl
  control := by
    intro p hp
    cases p with
    | unit | plain | comment => cases hp
    | _ => rfl

/-- One item: what its pieces tell is what it has to tell, unless that shows nothing. -/
theorem filterMap_told?_out (head : SceneHead) (x : Action) :
    ((g.shownPass r).out head x).filterMap Piece.told? =
      ((Item.telling? g.unitOf g.keepsHeadings r x).filter fun t ↦
        !Text.isBlankText t.text).toList := by
  have hone : ∀ (p : Piece κ β) (t : Told κ), g.piecesOf head x = [p] →
      Item.telling? g.unitOf g.keepsHeadings r x = some t → (g.retag r p).told? = some t →
      (g.retag r p).isBlank = Text.isBlankText t.text →
      ((g.shownPass r).out head x).filterMap Piece.told? =
        ((Item.telling? g.unitOf g.keepsHeadings r x).filter fun t ↦
          !Text.isBlankText t.text).toList := by
    intro p t hpiece htelling htold hblank
    rw [shownPass_out, hpiece, htelling, filterMap_shown_singleton, htold, hblank]
    cases ht : Text.isBlankText t.text <;> simp [ht, Option.filter]
  cases x with
  | act a => exact hone (.unit (g.unitOf a.verb) a.subject a.description) _ rfl rfl rfl rfl
  | marker m =>
    cases m with
    | text t => exact hone (.plain t) _ rfl rfl rfl rfl
    | comment t => exact hone (.comment t) _ rfl rfl rfl rfl
    | heading t =>
      cases hkeeps : g.keepsHeadings with
      | true =>
        rw [← hkeeps]
        refine hone (.comment t) (.comment t) ?_ ?_ rfl rfl
        · simp [piecesOf, pieceOf?, hkeeps]
        · rw [Item.telling?, if_pos hkeeps]
      | false => simp [shownPass, piecesOf, pieceOf?, hkeeps, shown, Item.telling?]
    | sceneStart =>
      show (g.shown r ((g.banner? head).map Piece.banner).toList).filterMap Piece.told? = []
      cases g.banner? head <;> rfl
    | _ => rfl

theorem filterMap_told?_run (head : SceneHead) (actions : List Action) :
    ((g.shownPass r).run head actions).filterMap Piece.told? =
      tellings g.unitOf g.keepsHeadings r actions := by
  rw [tellings, List.filter_filterMap, Pass.filterMap_run (g.filterMap_told?_out r)]

/-- What the records of a prose format tell is what the stream tells. -/
theorem filterMap_told?_of_project {actions : List Action} {ps : List (Piece κ β)}
    (h : g.project r actions = .ok ps) :
    ps.filterMap Piece.told? = tellings g.unitOf g.keepsHeadings r actions := by
  obtain ⟨-, rfl⟩ := (g.project_eq_ok_iff r).1 h
  rw [Flowing.layout, (g.sees_told?).filterMap_layoutFrom, shownPieces_eq_run,
    filterMap_told?_run]

end Genre

/-- **Novel and script tell what the stream tells**, in its order and nothing else: every act and
every text whose resolved text shows something, and every comment that does, in place among them. -/
theorem told_of_project (r : Resolver) (actions : List Action) :
    (∀ ps, Novel.genre.project r actions = .ok ps →
      ps.filterMap Piece.told? = tellings Novel.unitOf false r actions) ∧
    ∀ ps, Script.genre.project r actions = .ok ps →
      ps.filterMap Piece.told? = tellings Script.unitOf true r actions :=
  ⟨fun _ h ↦ Novel.genre.filterMap_told?_of_project r h,
    fun _ h ↦ Script.genre.filterMap_told?_of_project r h⟩

/-- A paragraph with an act that a tag blanks out, a heading, and a comment that shows nothing. -/
theorem told_of_project_blanks :
    let r : Resolver := ⟨.ofList [("hana", "Hana"), ("void", " ")], .empty, "$"⟩
    let actions : List Action :=
      [.marker .paragraphStart, .act ⟨.talk, "taro", "", "I saw $hana.", [], ""⟩,
       .act ⟨.occur, "taro", "", "$void", [], ""⟩, .marker (.heading "Later"),
       .marker (.comment " ")]
    let novel : List NovelPiece := [.unit .dialogue "taro" "I saw Hana.", .lineBreak]
    let script : List ScriptPiece :=
      [.unit .dialogue "taro" "I saw Hana.", .comment "Later", .lineBreak]
    (Novel.genre.project r actions = .ok novel ∧
      novel.filterMap Piece.told? = tellings Novel.unitOf false r actions) ∧
    (Script.genre.project r actions = .ok script ∧
      script.filterMap Piece.told? = tellings Script.unitOf true r actions) := by
  intro r actions novel script
  have hnovel : Novel.genre.project r actions = .ok novel := by decide
  have hscript : Script.genre.project r actions = .ok script := by decide
  exact ⟨⟨hnovel, (told_of_project r actions).1 novel hnovel⟩,
    hscript, (told_of_project r actions).2 script hscript⟩

end Manuscript
