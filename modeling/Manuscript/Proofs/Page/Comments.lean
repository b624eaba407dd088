import Manuscript.Page.Script
import Manuscript.Proofs.Page.Parts

/-!
# Comments on a page

A comment ends its line, but nothing ends the line before it: the layout passes a comment through
and leaves the paragraph as it is. So a comment stands at the start of a line, unless the record
before it is body text that has not ended its line, which the layout leaves only in an open
paragraph; there the comment cuts the line in two (`comments_of_story`).

That body text alone leaves a line open is an invariant of the layout together with what has been
laid out so far (`LineInvariant`). It needs of a format that banners end their lines and that units
which are not blank print something (`PrintsLines`): a unit that printed nothing would come after
whatever stood before it.
-/

namespace Manuscript

/-! ### Lines -/

theorem ne_empty_of_not_isBlankText {t : String} (h : ¬ Text.isBlankText t) : t ≠ "" := by
  rintro rfl
  exact h rfl

namespace Markdown

/-- What comes after the characters begins a line. -/
def EndsLine (cs : List Char) : Prop :=
  cs = [] ∨ cs.getLast? = some '\n'

instance (cs : List Char) : Decidable (EndsLine cs) :=
  inferInstanceAs (Decidable (cs = [] ∨ cs.getLast? = some '\n'))

theorem endsLine_append_iff {cs ds : List Char} (h : ds ≠ []) :
    EndsLine (cs ++ ds) ↔ ds.getLast? = some '\n' := by
  simp [EndsLine, h]

/-- Line feeds in front do not matter. -/
theorem endsLine_dropWhile_iff (cs : List Char) :
    EndsLine (cs.dropWhile (· = '\n')) ↔ EndsLine cs := by
  induction cs with
  | nil => rfl
  | cons c cs ih =>
    by_cases hc : c = '\n'
    · rw [List.dropWhile_cons_of_pos (by simpa using hc), ih, ← List.singleton_append]
      rcases eq_or_ne cs [] with rfl | hcs
      · simp [EndsLine, hc]
      · rw [endsLine_append_iff hcs, EndsLine, or_iff_right hcs]
    · rw [List.dropWhile_cons_of_neg (by simpa using hc)]

theorem endLine_append {cs : List Char} (h : EndsLine cs) (ds : List Char) :
    endLine (cs ++ ds) = cs ++ endLine ds := by
  rcases eq_or_ne ds [] with rfl | hds
  · have hcs : endLine cs = cs := if_pos h
    rw [List.append_nil, hcs]
    exact (List.append_nil cs).symm
  · simp only [endLine, hds, List.append_eq_nil_iff, and_false, false_or,
      List.getLast?_append_of_ne_nil cs hds]
    split
    · rfl
    · rw [List.append_assoc]

theorem getLast?_comment (t : String) : (comment t).toList.getLast? = some '\n' := by
  rw [comment, String.toList_append]
  exact List.getLast?_append_of_ne_nil _ (by decide)

theorem getLast?_heading (e : Element) (t : String) :
    (heading e t).toList.getLast? = some '\n' := by
  cases e <;>
  · rw [heading, String.toList_append]
    exact List.getLast?_append_of_ne_nil _ (by decide)

/-- A comment on a page stands between the text before it, less the line feeds in front, and the
text after it, with its last line ended. -/
theorem page_append_comment_cons (xs ys : List String) (t : String) :
    page (xs ++ comment t :: ys) =
      String.ofList ((concat xs).toList.dropWhile (· = '\n')) ++ comment t ++
        String.ofList (endLine (concat ys).toList) := by
  have hconcat : (concat (xs ++ comment t :: ys)).toList =
      (concat xs).toList ++ ((comment t).toList ++ (concat ys).toList) := by
    simp [concat, String.join_append]
  have hcomment : ((comment t).toList ++ (concat ys).toList).dropWhile (· = '\n') =
      (comment t).toList ++ (concat ys).toList := by
    simp [comment]
  have hdrop : (concat (xs ++ comment t :: ys)).toList.dropWhile (· = '\n') =
      (concat xs).toList.dropWhile (· = '\n') ++ (comment t).toList ++ (concat ys).toList := by
    rw [hconcat, List.dropWhile_append, hcomment, List.append_assoc]
    split
    · rename_i hnil
      rw [List.isEmpty_iff.1 hnil, List.nil_append]
    · rfl
  have hends : EndsLine ((concat xs).toList.dropWhile (· = '\n') ++ (comment t).toList) :=
    (endsLine_append_iff (by simp [comment])).2 (getLast?_comment t)
  rw [page, hdrop, endLine_append hends, String.ofList_append, String.ofList_append,
    String.ofList_toList]

end Markdown

namespace Genre

variable {κ β : Type} (g : Genre κ β)

/-- The text of records. -/
def textOf (ps : List (Piece κ β)) : List Char :=
  (Markdown.concat (ps.map g.renderPiece)).toList

theorem textOf_append (ps qs : List (Piece κ β)) :
    g.textOf (ps ++ qs) = g.textOf ps ++ g.textOf qs := by
  rw [textOf, List.map_append, Markdown.concat, String.join_append, String.toList_append]
  rfl

theorem textOf_singleton (p : Piece κ β) : g.textOf [p] = (g.renderPiece p).toList := by
  simp [textOf, Markdown.concat]

/-- The text on a page before what stands behind the records. -/
def pageBefore (ps : List (Piece κ β)) : String :=
  String.ofList ((g.textOf ps).dropWhile (· = '\n'))

end Genre

/-- Whether a piece is body text. -/
def Piece.isText {κ β : Type} : Piece κ β → Bool
  | unit _ _ _ => true
  | plain _ => true
  | _ => false

namespace Genre

variable {κ β : Type} (g : Genre κ β) (r : Resolver)

/-- The last of the records is body text that does not end its line. -/
def LeavesLineOpen (ps : List (Piece κ β)) : Prop :=
  ∃ p, ps.getLast? = some p ∧ p.isText ∧ (g.renderPiece p).toList.getLast? ≠ some '\n'

/-- Banners end their lines, and a unit that is not blank prints something. -/
structure PrintsLines : Prop where
  banner : ∀ b, (g.renderBanner b).toList.getLast? = some '\n'
  unit : ∀ k s t, ¬ Text.isBlankText t → g.renderUnit k s t ≠ ""

variable {g}

theorem getLast?_lineBreak :
    (g.renderPiece .lineBreak).toList.getLast? = some '\n' := by
  simp [renderPiece]

theorem leavesLineOpen_concat {ps : List (Piece κ β)} {p : Piece κ β} :
    g.LeavesLineOpen (ps ++ [p]) ↔
      p.isText ∧ (g.renderPiece p).toList.getLast? ≠ some '\n' := by
  simp [LeavesLineOpen]

variable (g) in
/-- What holds of the records laid out so far, where the paragraph is in the given state: only body
text in an open paragraph leaves a line open. -/
structure LineInvariant (s : ParagraphState) (ps : List (Piece κ β)) : Prop where
  endsLine_iff : Markdown.EndsLine (g.textOf ps) ↔ ¬ g.LeavesLineOpen ps
  inside : g.LeavesLineOpen ps → s = .inside true

namespace LineInvariant

variable {s : ParagraphState} {ps : List (Piece κ β)}

/-- Where no line is left open, it does not matter what becomes of the paragraph. -/
theorem of_not_leavesLineOpen (hopen : ¬ g.LeavesLineOpen ps)
    (hends : Markdown.EndsLine (g.textOf ps)) : g.LineInvariant s ps :=
  ⟨iff_of_true hends hopen, fun h ↦ absurd h hopen⟩

theorem of_ne_inside (h : g.LineInvariant s ps) (hs : s ≠ .inside true) (t : ParagraphState) :
    g.LineInvariant t ps := by
  have hopen : ¬ g.LeavesLineOpen ps := fun ho ↦ hs (h.inside ho)
  exact of_not_leavesLineOpen hopen (h.endsLine_iff.2 hopen)

/-- After a record that ends its line. -/
theorem concat_of_newline {p : Piece κ β}
    (hp : (g.renderPiece p).toList.getLast? = some '\n') : g.LineInvariant s (ps ++ [p]) := by
  refine of_not_leavesLineOpen (fun h ↦ (leavesLineOpen_concat.1 h).2 hp) ?_
  have hne : (g.renderPiece p).toList ≠ [] := fun hnil ↦ by rw [hnil] at hp; cases hp
  rw [textOf_append, textOf_singleton]
  exact (Markdown.endsLine_append_iff hne).2 hp

/-- After a record that prints nothing and is no body text. -/
theorem concat_of_silent (h : g.LineInvariant .outside ps) {p : Piece κ β}
    (hp : g.renderPiece p = "") (htext : p.isText = false) : g.LineInvariant s (ps ++ [p]) := by
  refine of_not_leavesLineOpen (fun ho ↦ ?_) ?_
  · rw [leavesLineOpen_concat, htext] at ho
    cases ho.1
  · rw [textOf_append, textOf_singleton, hp, String.toList_empty, List.append_nil]
    exact h.endsLine_iff.2 fun ho ↦ nomatch h.inside ho

/-- After body text in a paragraph. -/
theorem concat_of_text {p : Piece κ β} (hp : p.isText) (hne : g.renderPiece p ≠ "") :
    g.LineInvariant (.inside true) (ps ++ [p]) := by
  refine ⟨?_, fun _ ↦ rfl⟩
  rw [textOf_append, textOf_singleton, Markdown.endsLine_append_iff (by simpa using hne),
    leavesLineOpen_concat, and_iff_right hp, not_not]

/-- Closing the paragraph ends the line. -/
theorem append_closing (h : g.LineInvariant s ps) (t : ParagraphState) :
    g.LineInvariant t (ps ++ g.flowing.closing s) := by
  rcases s with - | - | -
  · exact (List.append_nil ps).symm ▸ h.of_ne_inside ParagraphState.noConfusion t
  · exact (List.append_nil ps).symm ▸ h.of_ne_inside (by decide) t
  · exact concat_of_newline getLast?_lineBreak

/-- Body text outside a paragraph is followed by a line break. -/
theorem append_put_body {p : Piece κ β} (hp : p.isText) (hne : g.renderPiece p ≠ "")
    (indentable : Bool) :
    g.LineInvariant (s.next (.body indentable))
      (ps ++ g.flowing.put s p (.body indentable)) := by
  cases s with
  | outside =>
    rw [Flowing.put, List.append_cons, ← List.append_assoc]
    exact concat_of_newline getLast?_lineBreak
  | inside produced =>
    rw [Flowing.put, ← List.append_assoc]
    exact concat_of_text hp hne

/-- What is laid out for one record. -/
theorem append_put (hg : g.PrintsLines) (h : g.LineInvariant s ps) {p : Piece κ β}
    (hblank : p.isBlank = false) (hindent : p ≠ .indent) :
    g.LineInvariant (s.next (g.flow p)) (ps ++ g.flowing.put s p (g.flow p)) := by
  cases p with
  | title e t =>
    rw [flow, Flowing.put, ← List.append_assoc]
    exact concat_of_newline (Markdown.getLast?_heading e t)
  | banner b =>
    rw [flow, Flowing.put, ← List.append_assoc]
    exact concat_of_newline (hg.banner b)
  | comment t => exact concat_of_newline (Markdown.getLast?_comment t)
  | unit k subject t =>
    have hshown : ¬ Text.isBlankText t := by simpa [Piece.isBlank] using hblank
    exact append_put_body (p := .unit k subject t) rfl (hg.unit k subject t hshown) _
  | plain t =>
    have hne : t ≠ "" := ne_empty_of_not_isBlankText (by simpa [Piece.isBlank] using hblank)
    exact append_put_body (p := .plain t) rfl hne false
  | paragraphStart => exact h.append_closing _
  | paragraphEnd => exact h.append_closing _
  | lineBreak =>
    cases s with
    | outside => exact concat_of_newline getLast?_lineBreak
    | inside produced => exact h.append_closing _
  | indent => exact absurd rfl hindent
  | sceneEnd =>
    rw [flow, Flowing.put, ← List.append_assoc]
    exact (h.append_closing .outside).concat_of_silent rfl rfl

/-- What is laid out for records in a row. -/
theorem append_run (hg : g.PrintsLines) (h : g.LineInvariant s ps) {qs : List (Piece κ β)}
    (hqs : ∀ q ∈ qs, q.isBlank = false ∧ q ≠ .indent) :
    g.LineInvariant (g.flowing.layoutPass.after s qs) (ps ++ g.flowing.layoutPass.run s qs) := by
  induction qs generalizing s ps with
  | nil => exact (List.append_nil ps).symm ▸ h
  | cons q qs ih =>
    obtain ⟨hblank, hindent⟩ := hqs q List.mem_cons_self
    rw [Pass.run_cons, Pass.after_cons, ← List.append_assoc]
    exact ih (h.append_put hg hblank hindent) fun q' hq' ↦ hqs q' (List.mem_cons_of_mem q hq')

end LineInvariant

/-! ### Comments -/

/-- Every piece that is shown is not blank. -/
theorem isBlank_of_mem_run (head : SceneHead) (actions : List Action) :
    ∀ p ∈ (g.shownPass r).run head actions, p.isBlank = false := by
  refine Pass.forall_mem_run (fun head x _ p hp ↦ ?_) head
  rw [shownPass_out, shown] at hp
  simpa using (List.mem_filter.1 hp).2

variable (g) in
/-- Where a comment stands on the page of a format that lays out the given pieces, between the
records before it and those behind it. -/
structure CommentPlace (pieces before : List (Piece κ β)) (t : String)
    (behind : List (Piece κ β)) : Prop where
  render_eq : g.render (before ++ .comment t :: behind) =
    g.pageBefore before ++ Markdown.comment t ++
      String.ofList (Markdown.endLine (g.textOf behind))
  /-- The comment begins a line, unless it comes directly after body text that does not end its
  line. -/
  startsLine_iff : Markdown.EndsLine (g.pageBefore before).toList ↔ ¬ g.LeavesLineOpen before
  /-- There is such body text only in a paragraph that is open. -/
  inParagraph : g.LeavesLineOpen before →
    ∃ qs ts, pieces = qs ++ .comment t :: ts ∧ before = g.flowing.layoutPass.run .outside qs ∧
      g.flowing.layoutPass.after .outside qs = .inside true

theorem commentPlace_of_layout_eq (hg : g.PrintsLines) {pieces before behind : List (Piece κ β)}
    {t : String} (hpieces : ∀ p ∈ pieces, p.isBlank = false ∧ p ≠ .indent)
    (h : g.flowing.layout pieces = before ++ .comment t :: behind) :
    g.CommentPlace pieces before t behind := by
  obtain ⟨qs, ts, rfl, rfl⟩ := Flowing.exists_eq_run_of_layoutFrom_eq (φ := g.flowing)
    (c := .comment t) rfl nofun nofun h
  have hnil : g.LineInvariant .outside [] :=
    .of_not_leavesLineOpen (by simp [LeavesLineOpen]) (.inl rfl)
  have hline := hnil.append_run hg fun q hq ↦ hpieces q (List.mem_append_left _ hq)
  rw [List.nil_append] at hline
  refine ⟨?_, ?_, fun hopen ↦ ⟨qs, ts, rfl, rfl, hline.inside hopen⟩⟩
  · rw [render, List.map_append, List.map_cons]
    exact Markdown.page_append_comment_cons _ _ t
  · rw [pageBefore, String.toList_ofList, Markdown.endsLine_dropWhile_iff]
    exact hline.endsLine_iff

/-- The place of every comment in a prose format of a stream. -/
theorem commentPlace_of_project (hg : g.PrintsLines) {actions : List Action}
    {before behind : List (Piece κ β)} {t : String}
    (h : g.project r actions = .ok (before ++ .comment t :: behind)) :
    g.CommentPlace (g.shownPieces r actions) before t behind := by
  obtain ⟨-, hlayout⟩ := (g.project_eq_ok_iff r).1 h
  refine commentPlace_of_layout_eq hg (fun p hp ↦ ?_) hlayout.symm
  rw [shownPieces_eq_run] at hp
  exact ⟨isBlank_of_mem_run r _ _ p hp, ne_indent_of_mem_run _ _ p hp⟩

end Genre

theorem Novel.printsLines : Novel.genre.PrintsLines where
  banner b := nomatch b
  unit k _ t ht := by
    cases k with
    | description => exact ne_empty_of_not_isBlankText ht
    | dialogue | monologue =>
      simp [Novel.genre, Novel.renderUnit, Markdown.speech, Markdown.thought]

theorem Script.printsLines : Script.genre.PrintsLines where
  banner head := by
    show (Script.renderBanner head).toList.getLast? = _
    rw [Script.renderBanner, String.toList_append]
    exact List.getLast?_append_of_ne_nil _ (by decide)
  unit k s t ht := by
    cases k with
    | direction => exact ne_empty_of_not_isBlankText ht
    | dialogue | monologue | voice | effect =>
      simp [Script.genre, Script.renderUnit, Markdown.speech, Markdown.thought]

/-- **A comment begins a line unless it comes directly after body text of an open paragraph.** -/
theorem comments_of_story (r : Resolver) {story : Story} (h : story ≠ []) :
    ∃ actions novel script, cleanedActions story = .ok actions ∧
      Novel.genre.project r actions = .ok novel ∧ Script.genre.project r actions = .ok script ∧
      (∀ before t behind, novel = before ++ .comment t :: behind →
        Novel.genre.CommentPlace (Novel.genre.shownPieces r actions) before t behind) ∧
      (∀ before t behind, script = before ++ .comment t :: behind →
        Script.genre.CommentPlace (Script.genre.shownPieces r actions) before t behind) := by
  have hnovel := Novel.genre.ofStory_of_ne_nil r h
  have hscript := Script.genre.ofStory_of_ne_nil r h
  rw [Genre.ofStory, cleanedActions_of_ne_nil h] at hnovel hscript
  refine ⟨_, _, _, cleanedActions_of_ne_nil h, hnovel, hscript, ?_, ?_⟩
  · rintro before t behind hps
    exact Genre.commentPlace_of_project r Novel.printsLines (hps ▸ hnovel)
  · rintro before t behind hps
    exact Genre.commentPlace_of_project r Script.printsLines (hps ▸ hscript)

/-- A scene with a comment in its only paragraph. -/
def commentedScene : StoryRecord :=
  ⟨.scene, "s1", { StoryFields.empty with
    title := "Pier", body := ["#! P", "He waited.", "# memo", "She came.", "#! PE"] }⟩

/-- The paragraph of the scene is open before its comment. -/
theorem comments_of_story_commented :
    let story := [commentedScene]
    let before : List NovelPiece :=
      [.title .scene "Pier", .indent, .unit .description "" "He waited."]
    let behind : List NovelPiece := [.unit .description "" "She came.", .lineBreak, .sceneEnd]
    story ≠ [] ∧ ∃ actions, cleanedActions story = .ok actions ∧
      Novel.genre.project Resolver.empty actions = .ok (before ++ .comment "memo" :: behind) ∧
      Novel.genre.CommentPlace (Novel.genre.shownPieces Resolver.empty actions)
        before "memo" behind := by
  intro story before behind
  have hne : story ≠ [] := List.cons_ne_nil _ _
  obtain ⟨actions, novel, -, hactions, hnovel, -, hplaces, -⟩ :=
    comments_of_story Resolver.empty hne
  have hrecords : Novel.genre.ofStory Resolver.empty story =
      .ok (before ++ .comment "memo" :: behind) := by decide
  rw [Genre.ofStory, hactions] at hrecords
  obtain rfl : novel = before ++ .comment "memo" :: behind :=
    Except.ok.inj (hnovel.symm.trans hrecords)
  exact ⟨hne, actions, hactions, hnovel, hplaces _ _ _ rfl⟩

/-- There the comment cuts the first line of the paragraph in two. -/
theorem comment_cuts_line :
    let before : List NovelPiece :=
      [.title .scene "Pier", .indent, .unit .description "" "He waited."]
    let behind : List NovelPiece := [.unit .description "" "She came.", .lineBreak, .sceneEnd]
    Novel.genre.ofStory Resolver.empty [commentedScene] =
        .ok (before ++ .comment "memo" :: behind) ∧
      Novel.genre.render (before ++ .comment "memo" :: behind) =
        "**Pier**\n\n　He waited.<!-- memo -->\nShe came.\n" ∧
      ¬ Markdown.EndsLine (Novel.genre.pageBefore before).toList := by
  decide

end Manuscript
