import Manuscript.Page.Novel
import Manuscript.Page.Script
import Manuscript.Proofs.Page.Prose

/-!
# Novel and script tell the same text

The skeleton of a prose format is what is left of its records without banners, comments and indents,
and without the kinds of its body units. Novel and script of a story have the same skeleton.

Both skeletons are compared with a third thing: the skeleton of the stream (`Item.skeleton?`), laid
out as if nothing took an indent (`skeletonFlowing`). That it is the skeleton of any prose format
(`filterMap_skeleton?_ofStory`) takes one fact about compiled stories. A banner closes the paragraph
in a format that has banners and not in one that has none, and the two would part where a scene
starts inside a paragraph. In a compiled story no scene does (`along_run_blockPass_run`): its title
stands before it.
-/

namespace Manuscript

/-- A piece without its kind, if it is part of the skeleton. -/
def Piece.skeleton? {κ β : Type} : Piece κ β → Option (Piece Unit Empty)
  | title e t => some (.title e t)
  | banner _ => none
  | comment _ => none
  | unit _ s t => some (.unit () s t)
  | plain t => some (.plain t)
  | paragraphStart => some .paragraphStart
  | paragraphEnd => some .paragraphEnd
  | lineBreak => some .lineBreak
  | indent => none
  | sceneEnd => some .sceneEnd

/-- The part that a piece of a skeleton takes in the layout. No unit takes an indent. -/
def skeletonFlow : Piece Unit Empty → Flow
  | .title _ _ => .title
  | .banner b => nomatch b
  | .comment _ => .passive
  | .unit _ _ _ => .body false
  | .plain _ => .body false
  | .paragraphStart => .paragraphStart
  | .paragraphEnd => .paragraphEnd
  | .lineBreak => .lineBreak
  | .indent => .passive
  | .sceneEnd => .boundary

/-- How a skeleton is laid out. -/
def skeletonFlowing : Flowing (Piece Unit Empty) :=
  ⟨skeletonFlow, .lineBreak, .indent⟩

/-- A piece of body text, unless it shows nothing. -/
def bodyPiece? (text : String) (p : Piece Unit Empty) : Option (Piece Unit Empty) :=
  if Text.isBlankText text then none else some p

/-- What an item of a stream gives the skeleton, with its tags resolved. -/
def Item.skeleton? (r : Resolver) : Action → Option (Piece Unit Empty)
  | .act a =>
    bodyPiece? (r.text a.subject a.description)
      (.unit () (r.subject a.subject) (r.text a.subject a.description))
  | .marker (.title e t) => some (.title e (r.text "" t))
  | .marker (.text t) => bodyPiece? (r.text "" t) (.plain (r.text "" t))
  | .marker .paragraphStart => some .paragraphStart
  | .marker .paragraphEnd => some .paragraphEnd
  | .marker .lineBreak => some .lineBreak
  | .marker .sceneEnd => some .sceneEnd
  | .marker _ => none

namespace Genre

variable {κ β : Type} (g : Genre κ β) (r : Resolver)

/-! ### One piece, one item -/

/-- Going over to the skeleton forgets nothing that the layout looks at, banners aside. -/
theorem forgets_skeleton? :
    Flowing.Forgets g.flowing skeletonFlowing (Piece.skeleton? (κ := κ) (β := β)) where
  lineBreak := rfl
  indent := rfl
  kept := by
    intro p q hp
    cases p <;> cases hp <;> rfl
  forgotten := by
    intro p hp
    cases p with
    | banner b => exact .inr rfl
    | comment t => exact .inl rfl
    | indent => exact .inl rfl
    | _ => cases hp

/-- One item gives the same to the skeleton of every format, whatever the facets of the scene. -/
theorem filterMap_skeleton?_out (head : SceneHead) (x : Action) :
    ((g.shownPass r).out head x).filterMap Piece.skeleton? = (Item.skeleton? r x).toList := by
  rw [shownPass_out]
  cases x with
  | act a =>
    rw [piecesOf, filterMap_shown_singleton, Item.skeleton?, bodyPiece?]
    show (if Text.isBlankText (r.text a.subject a.description) then _ else _) = _
    split <;> rfl
  | marker m =>
    rw [piecesOf]
    cases m with
    | text t =>
      show (g.shown r [.plain t]).filterMap Piece.skeleton? = _
      rw [filterMap_shown_singleton, Item.skeleton?, bodyPiece?]
      show (if Text.isBlankText (r.text "" t) then _ else _) = _
      split <;> rfl
    | comment t =>
      show (g.shown r [.comment t]).filterMap Piece.skeleton? = []
      rw [filterMap_shown_singleton]
      exact ite_self _
    | heading t =>
      show (g.shown r (if g.keepsHeadings then some (.comment t) else none).toList).filterMap
        Piece.skeleton? = []
      split
      · show (g.shown r [.comment t]).filterMap Piece.skeleton? = []
        rw [filterMap_shown_singleton]
        exact ite_self _
      · rfl
    | sceneStart =>
      show (g.shown r ((g.banner? head).map Piece.banner).toList).filterMap
        Piece.skeleton? = []
      cases g.banner? head <;> rfl
    | _ => rfl

/-! ### Banners stand outside paragraphs -/

variable {g r}

/-- Inside a scene no piece closes a paragraph like a title. -/
theorem flow_ne_title_of_mem_out {head : SceneHead} {x : Action}
    (hx : x.isActOr Marker.isContent) {p : Piece κ β} (hp : p ∈ (g.shownPass r).out head x) :
    g.flow p ≠ .title := by
  obtain ⟨q, hq, rfl⟩ := exists_eq_retag_of_mem_out g r hp
  rw [flow_retag]
  cases x with
  | act a =>
    obtain rfl := List.mem_singleton.1 hq
    exact Flow.noConfusion
  | marker m =>
    have hpiece : g.pieceOf? head m = some q := Option.mem_toList.1 hq
    cases m with
    | heading t =>
      rw [pieceOf?] at hpiece
      split at hpiece
      · cases hpiece
        exact Flow.noConfusion
      · cases hpiece
    | comment | lineBreak | paragraphStart | paragraphEnd =>
      cases hpiece
      exact Flow.noConfusion
    | _ => cases hx

/-- In the block of a record, whatever the paragraph before it, every piece that the skeleton
forgets and that closes a paragraph is met where none is open. -/
theorem along_run_recordBlock (head facets : SceneHead) (record : StoryRecord)
    (s : ParagraphState) :
    g.flowing.layoutPass.Along (g.flowing.Harmless Piece.skeleton?) s
      ((g.shownPass r).run head (recordBlock facets record)) := by
  have hsome : ∀ {q : Piece Unit Empty} {s p}, p.skeleton? = some q →
      g.flowing.Harmless Piece.skeleton? s p := fun hq hnone ↦ by
    rw [hq] at hnone
    cases hnone
  rcases eq_or_ne record.element .scene with hrecord | hrecord
  · rw [run_recordBlock_of_scene head facets hrecord]
    refine Pass.along_append.2 ⟨Pass.along_append.2 ⟨⟨hsome rfl, ?_⟩, ?_⟩, hsome rfl, trivial⟩
    · -- the banner follows the title, which has closed the paragraph
      cases g.banner? facets with
      | none => trivial
      | some b => exact ⟨fun _ _ ↦ rfl, trivial⟩
    · refine Pass.along_of_forall_mem (fun s p hp _ htitle ↦ absurd htitle ?_) _
      refine Pass.forall_mem_run (P := fun p ↦ g.flow p ≠ .title) ?_ _ p hp
      exact fun _ x hx p hp ↦ flow_ne_title_of_mem_out (isContent_of_mem_sceneContent x hx) hp
  · rw [run_recordBlock_of_ne_scene head facets hrecord]
    exact ⟨hsome rfl, trivial⟩

theorem along_run_blockPass_run (head facets : SceneHead) (story : Story) (s : ParagraphState) :
    g.flowing.layoutPass.Along (g.flowing.Harmless Piece.skeleton?) s
      ((g.shownPass r).run head (blockPass.run facets story)) := by
  induction story generalizing head facets s with
  | nil => trivial
  | cons record rs ih =>
    rw [Pass.run_cons, Pass.run_append]
    exact Pass.along_append.2 ⟨along_run_recordBlock _ _ record s, ih _ _ _⟩

/-! ### The skeleton of a story -/

variable (g r)

/-- The skeleton of a prose format is the skeleton of the stream, laid out. -/
theorem filterMap_skeleton?_ofStory {story : Story} (h : story ≠ []) :
    ∃ ps, g.ofStory r story = .ok ps ∧
      ps.filterMap Piece.skeleton? = skeletonFlowing.layout
        ((blockPass.run .blank story).filterMap (Item.skeleton? r)) := by
  refine ⟨_, g.ofStory_of_ne_nil r h, ?_⟩
  rw [Flowing.layout, g.forgets_skeleton?.filterMap_layoutFrom (along_run_blockPass_run _ _ _ _),
    Pass.filterMap_run (g.filterMap_skeleton?_out r)]
  rfl

end Genre

/-- **Novel and script of a story have the same skeleton**: without banners, comments and indents,
and whatever kinds their body units have, they are the same titles, body units, line breaks and
scene ends in the same order. -/
theorem skeleton_novel_eq_skeleton_script (r : Resolver) {story : Story} (h : story ≠ []) :
    ∃ novel script, Novel.genre.ofStory r story = .ok novel ∧
      Script.genre.ofStory r story = .ok script ∧
      novel.filterMap Piece.skeleton? = script.filterMap Piece.skeleton? := by
  obtain ⟨novel, hnovel, hn⟩ := Novel.genre.filterMap_skeleton?_ofStory r h
  obtain ⟨script, hscript, hs⟩ := Script.genre.filterMap_skeleton?_ofStory r h
  exact ⟨novel, script, hnovel, hscript, hn.trans hs.symm⟩

/-- The first scene leaves its paragraph open before the second, and the script shows its heading
and both banners. -/
theorem skeleton_novel_eq_skeleton_script_open_paragraph :
    let story :=
      [bareScene ["#! P", "[taro:occur:]Thunder", "## Later"], bareScene ["[taro:talk:]Hi"]]
    let skeleton : List (Piece Unit Empty) :=
      [.title .scene "", .unit () "taro" "Thunder", .lineBreak, .sceneEnd,
       .title .scene "", .unit () "taro" "Hi", .lineBreak, .sceneEnd]
    story ≠ [] ∧ ∃ novel script, Novel.genre.ofStory Resolver.empty story = .ok novel ∧
      Script.genre.ofStory Resolver.empty story = .ok script ∧
      novel.filterMap Piece.skeleton? = script.filterMap Piece.skeleton? ∧
      script.filterMap Piece.skeleton? = skeleton := by
  intro story skeleton
  have hne : story ≠ [] := List.cons_ne_nil _ _
  have hcommon : (Script.genre.ofStory Resolver.empty story).map
      (fun ps ↦ ps.filterMap Piece.skeleton?) = .ok skeleton := by
    decide
  obtain ⟨novel, script, hnovel, hscript, hsame⟩ :=
    skeleton_novel_eq_skeleton_script Resolver.empty hne
  rw [hscript] at hcommon
  exact ⟨hne, novel, script, hnovel, hscript, hsame, Except.ok.inj hcommon⟩

end Manuscript
