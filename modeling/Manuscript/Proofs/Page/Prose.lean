import Manuscript.Proofs.Compile.Blocks
import Manuscript.Proofs.Page.Layout
import Manuscript.Page.Prose

/-!
# The prose formats of a story

A prose format is made from the stream by one pass, which turns items into pieces, resolves their
tags and drops those that show nothing (`shownPass`), and by the layout. Its state is the facets of
the scene, which only the banners see.

Over a compiled story the pass goes block by block. The pieces of every block end with one that
closes the paragraph (`exists_run_recordBlock_eq_concat`): the title of an element other than a
scene, or the end of the scene. Neither is ever dropped, so a prose format of a story with records
is never empty, and no paragraph is open between two records.
-/

namespace Manuscript.Genre

variable {κ β : Type} (g : Genre κ β) (r : Resolver)

/-! ### The pass -/

/-- The pieces that an item makes, where the scene has the given facets. -/
def piecesOf (head : SceneHead) : Action → List (Piece κ β)
  | .act a => [.unit (g.unitOf a.verb) a.subject a.description]
  | .marker m => (g.pieceOf? head m).toList

/-- The pieces with their tags resolved, less those that show nothing. -/
def shown (pieces : List (Piece κ β)) : List (Piece κ β) :=
  (pieces.map (g.retag r)).filter fun p ↦ !p.isBlank

/-- Items to the pieces that are shown. The state is the facets of the scene. -/
def shownPass : Pass SceneHead Action (Piece κ β) where
  next
    | head, .act _ => head
    | head, .marker m => nextHead head m
  out head x := g.shown r (g.piecesOf head x)

theorem shownPass_out (head : SceneHead) (x : Action) :
    (g.shownPass r).out head x = g.shown r (g.piecesOf head x) := rfl

/-- Every piece that is shown for an item is one that the item makes, with its tags resolved. -/
theorem exists_eq_retag_of_mem_out {head : SceneHead} {x : Action} {p : Piece κ β}
    (hp : p ∈ (g.shownPass r).out head x) : ∃ q ∈ g.piecesOf head x, g.retag r q = p := by
  rw [shownPass_out, shown] at hp
  exact List.mem_map.1 (List.mem_filter.1 hp).1

theorem shown_append (ps qs : List (Piece κ β)) :
    g.shown r (ps ++ qs) = g.shown r ps ++ g.shown r qs := by
  rw [shown, List.map_append, List.filter_append]
  rfl

/-- A single piece is shown if it is not blank. -/
theorem shown_singleton (p : Piece κ β) :
    g.shown r [p] = if (g.retag r p).isBlank then [] else [g.retag r p] := by
  rw [shown, List.map_singleton, List.filter_singleton]
  cases (g.retag r p).isBlank <;> rfl

/-- What a map sees of a single piece. -/
theorem filterMap_shown_singleton {γ : Type} (f : Piece κ β → Option γ) (p : Piece κ β) :
    (g.shown r [p]).filterMap f =
      if (g.retag r p).isBlank then [] else (f (g.retag r p)).toList := by
  rw [shown_singleton]
  split
  · rfl
  · cases hf : f (g.retag r p) <;> simp [hf]

/-- Resolving tags does not change the part that a piece takes in the layout. -/
theorem flow_retag (p : Piece κ β) : g.flow (g.retag r p) = g.flow p := by
  cases p <;> rfl

theorem shown_piecesFrom_eq_run (head : SceneHead) (actions : List Action) :
    g.shown r (g.piecesFrom head actions) = (g.shownPass r).run head actions := by
  induction actions generalizing head with
  | nil => rfl
  | cons x rest ih =>
    cases x with
    | act a => rw [piecesFrom, ← List.singleton_append, shown_append, ih]; rfl
    | marker m => rw [piecesFrom, shown_append, ih]; rfl

theorem shownPieces_eq_run (actions : List Action) :
    g.shownPieces r actions = (g.shownPass r).run .blank actions :=
  g.shown_piecesFrom_eq_run r .blank actions

/-! ### The records of a format -/

/-- A format is made exactly if something is left to show, and then it is the layout of that. -/
theorem project_eq_ok_iff {actions : List Action} {ps : List (Piece κ β)} :
    g.project r actions = .ok ps ↔
      g.shownPieces r actions ≠ [] ∧ ps = g.flowing.layout (g.shownPieces r actions) := by
  cases actions with
  | nil => simp [project, shownPieces, pieces, piecesFrom]
  | cons x rest =>
    rw [project, if_neg (by simp), Format.nonEmpty]
    rcases eq_or_ne (g.shownPieces r (x :: rest)) [] with hnil | hne
    · simp [hnil, Except.map]
    · rw [if_neg (by simpa using hne)]
      exact ⟨fun h ↦ ⟨hne, (Except.ok.inj h).symm⟩, fun h ↦ congrArg Except.ok h.2.symm⟩

/-- The records of a format for a story. -/
def ofStory (story : Story) : Except Error (List (Piece κ β)) :=
  (cleanedActions story).bind (g.project r)

/-! ### The pieces of a block -/

variable {g r}

/-- A scene opens with its title and its banner. -/
theorem run_opening (head : SceneHead) (title : String) (facets : SceneHead) :
    (g.shownPass r).run head ((sceneOpening title facets).map .marker) =
      .title .scene (r.text "" title) ::
        ((g.banner? facets).map fun b ↦ .banner (g.retagBanner r b)).toList := by
  -- the facets make no piece, and the banner of the scene start sees all five of them
  have hfront : (g.shownPass r).run head
      ((.title .scene title :: Facet.all.map fun f ↦ .facet f (facets.get f)).map .marker) =
      [.title .scene (r.text "" title)] := rfl
  have hafter : (g.shownPass r).after head
      ((.title .scene title :: Facet.all.map fun f ↦ .facet f (facets.get f)).map .marker) =
      facets := rfl
  rw [sceneOpening, List.map_append, Pass.run_append, hfront, hafter, List.singleton_append]
  congr 1
  refine (Pass.run_singleton _ _ _).trans ?_
  show g.shown r ((g.banner? facets).map Piece.banner).toList = _
  cases g.banner? facets <;> rfl

/-- The pieces of a scene. Those of its content are made where the scene has its own facets. -/
theorem run_recordBlock_of_scene (head facets : SceneHead) {record : StoryRecord}
    (h : record.element = .scene) :
    (g.shownPass r).run head (recordBlock facets record) =
      .title .scene (r.text "" record.fields.title) ::
          ((g.banner? facets).map fun b ↦ .banner (g.retagBanner r b)).toList
        ++ (g.shownPass r).run facets (sceneContent record.fields.body) ++ [.sceneEnd] := by
  rw [recordBlock_of_scene facets h, Pass.run_append, Pass.run_append, run_opening]
  rfl

theorem run_recordBlock_of_ne_scene (head facets : SceneHead) {record : StoryRecord}
    (h : record.element ≠ .scene) :
    (g.shownPass r).run head (recordBlock facets record) =
      [.title record.element (r.text "" record.fields.title)] := by
  rw [recordBlock_of_ne_scene facets h]
  rfl

/-- The pieces of every block end with one that closes the paragraph. -/
theorem exists_run_recordBlock_eq_concat (head facets : SceneHead) (record : StoryRecord) :
    ∃ ps p, (g.shownPass r).run head (recordBlock facets record) = ps ++ [p] ∧
      (g.flow p = .title ∨ g.flow p = .boundary) := by
  rcases eq_or_ne record.element .scene with hrecord | hrecord
  · exact ⟨_, .sceneEnd, run_recordBlock_of_scene head facets hrecord, .inr rfl⟩
  · exact ⟨[], _, run_recordBlock_of_ne_scene head facets hrecord, .inl rfl⟩

/-- Between two records no paragraph is open. -/
theorem after_run_blockPass_run (head facets : SceneHead) (story : Story) :
    g.flowing.layoutPass.after .outside
      ((g.shownPass r).run head (blockPass.run facets story)) = .outside := by
  rcases List.eq_nil_or_concat' story with rfl | ⟨rs, record, rfl⟩
  · rfl
  · rw [Pass.run_append, Pass.run_singleton, Pass.run_append, Pass.after_append]
    obtain ⟨ps, p, hblock, hp⟩ := exists_run_recordBlock_eq_concat (g := g) (r := r)
      ((g.shownPass r).after head (blockPass.run facets rs))
      (rawPass.next (blockPass.after facets rs) record) record
    show g.flowing.layoutPass.after _ ((g.shownPass r).run _ (recordBlock _ record)) = .outside
    rw [hblock, g.flowing.after_concat_of_closes hp]

/-- Something of every story with records is shown. -/
theorem run_blockPass_run_ne_nil (head facets : SceneHead) {story : Story} (h : story ≠ []) :
    (g.shownPass r).run head (blockPass.run facets story) ≠ [] := by
  obtain ⟨record, rs, rfl⟩ := List.exists_cons_of_ne_nil h
  obtain ⟨ps, p, hblock, -⟩ :=
    exists_run_recordBlock_eq_concat (g := g) (r := r) head (rawPass.next facets record) record
  have hout : (g.shownPass r).run head (blockPass.out facets record) = ps ++ [p] := hblock
  rw [Pass.run_cons, Pass.run_append, hout]
  simp

variable (g r)

/-- **A prose format of a story with records** is the layout of the pieces of its blocks. -/
theorem ofStory_of_ne_nil {story : Story} (h : story ≠ []) :
    g.ofStory r story =
      .ok (g.flowing.layout ((g.shownPass r).run .blank (blockPass.run .blank story))) := by
  rw [ofStory, cleanedActions_of_ne_nil h]
  refine (g.project_eq_ok_iff r).2 ?_
  rw [shownPieces_eq_run]
  exact ⟨run_blockPass_run_ne_nil _ _ h, rfl⟩

end Manuscript.Genre
