import Manuscript.Page.Novel
import Manuscript.Proofs.Page.Prose
import Manuscript.Proofs.Report.Count

/-!
# The novel of a manuscript and of its parts

The novel of two stories in a row is the novel of the first followed by the novel of the second, and
its counts are the sums of theirs. Two things could come between them. The second part starts from
the facets that the first leaves behind; but a format without banners does not show facets
(`run_blockPass_run_congr`). And the first part might leave its last paragraph or its last line
open; but a record closes its paragraph, and closing a paragraph ends the line
(`body_eq_empty_or_endsLine`).
-/

namespace Manuscript

namespace Genre

variable {κ β : Type} {g : Genre κ β} {r : Resolver}

/-! ### Facets are not shown without banners -/

/-- Inside a scene the pieces do not depend on the facets. -/
theorem run_sceneContent (head : SceneHead) (body : List String) :
    (g.shownPass r).run head (sceneContent body) =
      (sceneContent body).flatMap ((g.shownPass r).out .blank) := by
  refine Pass.run_eq_flatMap (fun head x hx ↦ ?_) head
  have hcontent := isContent_of_mem_sceneContent x hx
  rw [shownPass_out, shownPass_out]
  cases x with
  | act a => rfl
  | marker m =>
    cases m with
    | sceneStart => cases hcontent
    | _ => rfl

theorem run_recordBlock_congr (hbanner : ∀ head, g.banner? head = none)
    (head head' facets facets' : SceneHead) (record : StoryRecord) :
    (g.shownPass r).run head (recordBlock facets record) =
      (g.shownPass r).run head' (recordBlock facets' record) := by
  rcases eq_or_ne record.element .scene with hrecord | hrecord
  · rw [run_recordBlock_of_scene head facets hrecord,
      run_recordBlock_of_scene head' facets' hrecord, hbanner, hbanner, run_sceneContent,
      run_sceneContent]
  · rw [run_recordBlock_of_ne_scene head facets hrecord,
      run_recordBlock_of_ne_scene head' facets' hrecord]

/-- Without banners, the pieces of a story do not depend on the facets from before it. -/
theorem run_blockPass_run_congr (hbanner : ∀ head, g.banner? head = none)
    (head head' facets facets' : SceneHead) (story : Story) :
    (g.shownPass r).run head (blockPass.run facets story) =
      (g.shownPass r).run head' (blockPass.run facets' story) := by
  induction story generalizing head head' facets facets' with
  | nil => rfl
  | cons record rs ih =>
    rw [Pass.run_cons, Pass.run_cons, Pass.run_append, Pass.run_append]
    exact congrArg₂ _ (run_recordBlock_congr hbanner _ _ _ _ record) (ih _ _ _ _)

/-- Without banners, the layout of two stories in a row is their layouts in a row. -/
theorem layout_run_append (hbanner : ∀ head, g.banner? head = none) (s t : Story) :
    g.flowing.layout ((g.shownPass r).run .blank (blockPass.run .blank (s ++ t))) =
      g.flowing.layout ((g.shownPass r).run .blank (blockPass.run .blank s))
        ++ g.flowing.layout ((g.shownPass r).run .blank (blockPass.run .blank t)) := by
  rw [Pass.run_append, Pass.run_append, Flowing.layout,
    g.flowing.layoutFrom_append_of_outside (after_run_blockPass_run _ _ s),
    run_blockPass_run_congr hbanner _ .blank _ .blank t]
  rfl

/-! ### The body ends its last line -/

/-- No item makes an indent: only the layout does. -/
theorem indent_notMem_piecesOf (head : SceneHead) (x : Action) :
    Piece.indent ∉ g.piecesOf head x := by
  cases x with
  | act a => simp [piecesOf]
  | marker m => cases m <;> simp [piecesOf, pieceOf?]

theorem ne_indent_of_mem_run (head : SceneHead) (actions : List Action) :
    ∀ p ∈ (g.shownPass r).run head actions, p ≠ .indent := by
  refine Pass.forall_mem_run (fun head x _ p hp hindent ↦ ?_) head
  obtain ⟨q, hq, rfl⟩ := exists_eq_retag_of_mem_out g r hp
  cases q with
  | indent => exact indent_notMem_piecesOf head x hq
  | _ => cases hindent

/-- The body of a format is empty or ends its last line. -/
theorem body_eq_empty_or_endsLine {actions : List Action} {ps : List (Piece κ β)}
    (h : g.project r actions = .ok ps) :
    (g.body ps).toList = [] ∨ (g.body ps).toList.getLast? = some '\n' := by
  obtain ⟨-, rfl⟩ := (g.project_eq_ok_iff r).1 h
  rw [shownPieces_eq_run]
  have hbody : ∀ p ∈ (g.shownPass r).run .blank actions,
      g.flowing.flow p = .title ∨ g.flowing.flow p = .boundary ∨ g.flowing.flow p = .passive →
        p.isBody = false := by
    intro p hp hflow
    have hne := ne_indent_of_mem_run _ _ p hp
    cases p with
    | indent => exact absurd rfl hne
    | unit | plain | lineBreak | paragraphStart | paragraphEnd =>
      rcases hflow with hflow | hflow | hflow <;> cases hflow
    | _ => rfl
  rw [body, Flowing.layout]
  have hfinishes := Flowing.finishesLine_layoutFrom (φ := g.flowing) rfl hbody .outside
  rcases hfinishes.endsLine with hnil | ⟨qs, hqs⟩
  · exact .inl (by rw [hnil]; rfl)
  · refine .inr ?_
    have hbreak : (String.join ([g.flowing.lineBreak].map g.renderPiece)).toList = ['\n'] := by
      simp [flowing, renderPiece]
    rw [hqs, List.map_append, Markdown.concat, String.join_append, String.toList_append, hbreak]
    exact List.getLast?_concat

theorem body_append (ps qs : List (Piece κ β)) :
    g.body (ps ++ qs) = g.body ps ++ g.body qs := by
  rw [body, List.filter_append, List.map_append, Markdown.concat, String.join_append]
  rfl

end Genre

/-- **The novel of a manuscript is made of the novels of its parts**: its records are those of the
first part and then those of the second, and so is its body. All counts of the body add up, the
estimates in exact fractions. -/
theorem novel_append (r : Resolver) {s t : Story} (hs : s ≠ []) (ht : t ≠ []) :
    ∃ ns nt, Novel.genre.ofStory r s = .ok ns ∧ Novel.genre.ofStory r t = .ok nt ∧
      Novel.genre.ofStory r (s ++ t) = .ok (ns ++ nt) ∧
      Novel.genre.body (ns ++ nt) = Novel.genre.body ns ++ Novel.genre.body nt ∧
      ∀ paper, CountsAdd paper (Novel.genre.body ns) (Novel.genre.body nt) := by
  have hst : s ++ t ≠ [] := List.append_ne_nil_of_left_ne_nil hs t
  refine ⟨_, _, Novel.genre.ofStory_of_ne_nil r hs, Novel.genre.ofStory_of_ne_nil r ht, ?_,
    Genre.body_append _ _, fun paper ↦ ?_⟩
  · rw [Novel.genre.ofStory_of_ne_nil r hst, Genre.layout_run_append (fun _ ↦ rfl)]
  · have hnovel := Novel.genre.ofStory_of_ne_nil r hs
    rw [Genre.ofStory, cleanedActions_of_ne_nil hs] at hnovel
    exact countsAdd paper (Genre.body_eq_empty_or_endsLine hnovel) _

/-- The first part opens a paragraph with its last act and does not close it. -/
theorem novel_append_open_paragraph :
    let s := [bareScene ["#! P", "[taro:occur:]Thunder"]]
    let t := [bareScene ["[taro:talk:]Hi"]]
    let ns : List NovelPiece :=
      [.title .scene "", .indent, .unit .description "taro" "Thunder", .lineBreak, .sceneEnd]
    let nt : List NovelPiece :=
      [.title .scene "", .unit .dialogue "taro" "Hi", .lineBreak, .sceneEnd]
    s ≠ [] ∧ t ≠ [] ∧ Novel.genre.ofStory Resolver.empty (s ++ t) = .ok (ns ++ nt) ∧
      CountsAdd ⟨2, 20⟩ (Novel.genre.body ns) (Novel.genre.body nt) := by
  intro s t ns nt
  have hs : s ≠ [] := List.cons_ne_nil _ _
  have ht : t ≠ [] := List.cons_ne_nil _ _
  have hns : Novel.genre.ofStory Resolver.empty s = .ok ns := by decide
  have hnt : Novel.genre.ofStory Resolver.empty t = .ok nt := by decide
  obtain ⟨ns', nt', hns', hnt', happend, -, hcounts⟩ := novel_append Resolver.empty hs ht
  obtain rfl : ns = ns' := Except.ok.inj (hns.symm.trans hns')
  obtain rfl : nt = nt' := Except.ok.inj (hnt.symm.trans hnt')
  exact ⟨hs, ht, happend, hcounts ⟨2, 20⟩⟩

end Manuscript
