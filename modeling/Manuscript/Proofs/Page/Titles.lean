import Manuscript.Project.Build
import Manuscript.Proofs.Page.Prose

/-!
# The titles of a manuscript

A record of a story always states its title, and no pass loses a title: compilation keeps one for
every record (`filterMap_title?_blockPass_run`), resolving tags only changes its text, and it is not
dropped for showing nothing, even if its text is empty. So every format has a title for every record
of the story, whatever became of the bodies, and for that reason alone no format of a story with
records is empty.

A format is made from its records by resolving their tags and dropping those that show nothing;
that titles come through this is said once for all of them (`filterMap_title?_shown`).
-/

namespace Manuscript

/-- A title with its tags resolved. -/
def Resolver.title (r : Resolver) (t : Element × String) : Element × String :=
  (t.1, r.text "" t.2)

/-- The title of a record of a story. -/
def StoryRecord.title (r : StoryRecord) : Element × String :=
  (r.element, r.fields.title)

/-- The title that an item of a stream states. -/
def Item.title? {α : Type} : Item α → Option (Element × String)
  | .marker (.title e t) => some (e, t)
  | _ => none

/-! ### The stream -/

theorem filterMap_title?_sceneContent (body : List String) :
    (sceneContent body).filterMap Item.title? = [] := by
  refine List.filterMap_eq_nil_iff.2 fun x hx ↦ ?_
  have hcontent := isContent_of_mem_sceneContent x hx
  cases x with
  | act a => rfl
  | marker m =>
    cases m with
    | title e t => cases hcontent
    | _ => rfl

theorem filterMap_title?_recordBlock (head : SceneHead) (r : StoryRecord) :
    (recordBlock head r).filterMap Item.title? = [r.title] := by
  rw [StoryRecord.title]
  rcases eq_or_ne r.element .scene with hr | hr
  · rw [recordBlock_of_scene head hr, List.filterMap_append, List.filterMap_append,
      filterMap_title?_sceneContent, hr]
    rfl
  · rw [recordBlock_of_ne_scene head hr]
    rfl

/-- **A compiled story has the titles of its records**, in order. -/
theorem filterMap_title?_blockPass_run (head : SceneHead) (story : Story) :
    (blockPass.run head story).filterMap Item.title? = story.map StoryRecord.title := by
  rw [Pass.filterMap_run (e := fun r ↦ some r.title)
    (fun s r ↦ filterMap_title?_recordBlock (rawPass.next s r) r)]
  exact congrFun List.filterMap_eq_map story

/-! ### Records of formats -/

/-- Titles come through the resolving of tags and the dropping of blank records, where tags are
resolved in the title and a title is not blank. -/
theorem filterMap_title?_shown {α : Type} {retag : α → α} {isBlank : α → Bool}
    {title? : α → Option (Element × String)} {r : Resolver}
    (hretag : ∀ x, title? (retag x) = (title? x).map r.title)
    (hblank : ∀ x, isBlank x → title? x = none) (xs : List α) :
    ((xs.map retag).filter fun x ↦ !isBlank x).filterMap title? =
      (xs.filterMap title?).map r.title := by
  induction xs with
  | nil => rfl
  | cons x xs ih =>
    cases ht : title? x with
    | some t =>
      have hkept : title? (retag x) = some (r.title t) := by
        rw [hretag, ht]
        rfl
      have hshown : isBlank (retag x) = false := by
        refine Bool.eq_false_iff.2 fun hx ↦ ?_
        rw [hblank _ hx] at hkept
        cases hkept
      rw [List.map_cons, List.filter_cons_of_pos (by rw [hshown]; rfl),
        List.filterMap_cons_some hkept, ih, List.filterMap_cons_some ht, List.map_cons]
    | none =>
      have hnone : title? (retag x) = none := by
        rw [hretag, ht]
        rfl
      rw [List.map_cons, List.filter_cons, List.filterMap_cons_none ht, ← ih]
      split
      · rw [List.filterMap_cons_none hnone]
      · rfl

/-- A format that has something left to show is made of that. -/
theorem Format.nonEmpty_eq_ok {α : Type} (f : Format) {records : List α} (h : records ≠ []) :
    f.nonEmpty records = .ok records := by
  rw [nonEmpty, if_neg (by simpa using h)]

/-! ### Prose -/

/-- The title that a piece states. -/
def Piece.title? {κ β : Type} : Piece κ β → Option (Element × String)
  | .title e t => some (e, t)
  | _ => none

namespace Genre

variable {κ β : Type} (g : Genre κ β) (r : Resolver)

theorem filterMap_title?_piecesFrom (head : SceneHead) (actions : List Action) :
    (g.piecesFrom head actions).filterMap Piece.title? = actions.filterMap Item.title? := by
  induction actions generalizing head with
  | nil => rfl
  | cons x rest ih =>
    cases x with
    | act a => exact ih head
    | marker m =>
      rw [piecesFrom, List.filterMap_append, ih, ← List.singleton_append, List.filterMap_append]
      congr 1
      cases m with
      | heading t => cases hkeeps : g.keepsHeadings <;> simp [pieceOf?, hkeeps] <;> rfl
      | sceneStart => cases hbanner : g.banner? head <;> simp [pieceOf?, hbanner] <;> rfl
      | _ => rfl

/-- The pieces that are shown have the titles of the stream. -/
theorem filterMap_title?_shownPieces (actions : List Action) :
    (g.shownPieces r actions).filterMap Piece.title? =
      (actions.filterMap Item.title?).map r.title := by
  have hretag : ∀ p : Piece κ β, (g.retag r p).title? = p.title?.map r.title := fun p ↦ by
    cases p <;> rfl
  have hblank : ∀ p : Piece κ β, p.isBlank → p.title? = none := fun p hp ↦ by
    cases p with
    | title e t => cases hp
    | _ => rfl
  rw [shownPieces, filterMap_title?_shown hretag hblank, pieces, filterMap_title?_piecesFrom]

/-- The layout neither puts in nor takes out a title. -/
theorem sees_title? : Flowing.Sees g.flowing (Piece.title? (κ := κ) (β := β)) where
  lineBreak := rfl
  indent := rfl
  control := by
    intro p hp
    cases p with
    | title => cases hp
    | _ => rfl

/-- **A prose format is made from every stream that states a title**, and has its titles. -/
theorem exists_project_eq_ok {actions : List Action} (h : actions.filterMap Item.title? ≠ []) :
    ∃ ps, g.project r actions = .ok ps ∧
      ps.filterMap Piece.title? = (actions.filterMap Item.title?).map r.title := by
  have htitles := g.filterMap_title?_shownPieces r actions
  have hne : g.shownPieces r actions ≠ [] := by
    intro hnil
    rw [hnil] at htitles
    exact h (List.map_eq_nil_iff.1 htitles.symm)
  refine ⟨_, (g.project_eq_ok_iff r).2 ⟨hne, rfl⟩, ?_⟩
  rw [Flowing.layout, (g.sees_title?).filterMap_layoutFrom, htitles]

end Genre

/-! ### Scene information -/

/-- The title that a record states. -/
def InfoRecord.title? : InfoRecord → Option (Element × String)
  | .title e t => some (e, t)
  | _ => none

namespace SceneInfo

theorem filterMap_title?_recordsFrom (isPerson : String → Bool) (c : Course)
    (actions : List Action) :
    (recordsFrom isPerson c actions).filterMap InfoRecord.title? =
      actions.filterMap Item.title? := by
  induction actions generalizing c with
  | nil => rfl
  | cons x rest ih =>
    cases x with
    | act a => exact ih _
    | marker m =>
      rw [recordsFrom, List.filterMap_append, ih, ← List.singleton_append, List.filterMap_append]
      congr 1
      cases m <;> rfl

/-- **The scene information is made from every stream that states a title**, and has its
titles. -/
theorem exists_project_eq_ok (r : Resolver) {actions : List Action}
    (h : actions.filterMap Item.title? ≠ []) :
    ∃ records, project r actions = .ok records ∧
      records.filterMap InfoRecord.title? = (actions.filterMap Item.title?).map r.title := by
  have hretag : ∀ x : InfoRecord, (x.retag r).title? = x.title?.map r.title := fun x ↦ by
    cases x <;> rfl
  have hblank : ∀ x : InfoRecord, x.isBlank → x.title? = none := fun x hx ↦ by
    cases x with
    | title e t => cases hx
    | _ => rfl
  have htitles := filterMap_title?_shown hretag hblank (recordsFrom r.isPerson .start actions)
  rw [filterMap_title?_recordsFrom] at htitles
  have hactions : ¬ actions.isEmpty := fun hnil ↦ h (by rw [List.isEmpty_iff.1 hnil]; rfl)
  rw [project, if_neg hactions, Format.nonEmpty_eq_ok]
  · exact ⟨_, rfl, htitles⟩
  · intro hnil
    rw [hnil] at htitles
    exact h (List.map_eq_nil_iff.1 htitles.symm)

end SceneInfo

/-! ### Outline and plot -/

/-- **The outline** has the titles of the records, by kind. -/
theorem Outline.exists_project_eq_ok (r : Resolver) {story : Story} (h : story ≠ []) :
    ∃ records, Outline.project r story = .ok records ∧
      (records.map fun o ↦ (o.element, o.title)).Perm (story.map fun s ↦ r.title s.title) := by
  -- grouping only moves records
  have hperm : ((grouped (story.map OutlineRecord.ofStory)).map (OutlineRecord.retag r)).Perm
      ((story.map OutlineRecord.ofStory).map (OutlineRecord.retag r)) :=
    (List.mergeSort_perm _ _).map _
  rw [project, if_neg (by simpa using h), Format.nonEmpty_eq_ok]
  · refine ⟨_, rfl, (hperm.map _).trans ?_⟩
    rw [List.map_map, List.map_map]
    rfl
  · intro hnil
    rw [hnil] at hperm
    simp [h] at hperm

/-- **The plot** has the titles of the records, in order. -/
theorem Plot.exists_project_eq_ok (r : Resolver) {story : Story} (h : story ≠ []) :
    ∃ records, Plot.project r story = .ok records ∧
      (records.map fun p ↦ (p.element, p.title)) = story.map fun s ↦ r.title s.title := by
  rw [project, if_neg (by simpa using h), Format.nonEmpty_eq_ok]
  · refine ⟨_, rfl, ?_⟩
    rw [List.map_map, List.map_map]
    rfl
  · simpa using h

/-! ### Every format -/

/-- **Every story with records can be built**, for every resolver: it compiles, and every format is
made from it and has records. Only the story without records does not compile. -/
theorem formats_ok_of_ne_nil (r : Resolver) (story : Story) :
    (∀ e, compileActions story = .error e ↔ story = [] ∧ e = .noStoryRecords) ∧
    (story ≠ [] → ∃ actions, compileActions story = .ok actions ∧
      (∃ ps, Novel.genre.project r (applyInstructions actions) = .ok ps ∧ ps ≠ []) ∧
      (∃ ps, Script.genre.project r (applyInstructions actions) = .ok ps ∧ ps ≠ []) ∧
      (∃ records, SceneInfo.project r (applyInstructions actions) = .ok records ∧
        records ≠ []) ∧
      (∃ records, Outline.project r story = .ok records ∧ records ≠ []) ∧
      (∃ records, Plot.project r story = .ok records ∧ records ≠ []) ∧
      ∀ f, ∃ page, (Sources.mk story r (applyInstructions actions)).render f = .ok page) := by
  refine ⟨fun e ↦ compileActions_eq_error_iff, fun h ↦
    ⟨_, compileActions_of_ne_nil h, ?_⟩⟩
  rw [applyInstructions_resolveSame_rawActions]
  have hstory : story.map StoryRecord.title ≠ [] := mt List.map_eq_nil_iff.1 h
  have hstream : (blockPass.run .blank story).filterMap Item.title? ≠ [] := by
    rw [filterMap_title?_blockPass_run]
    exact hstory
  have hne : ∀ {α : Type} {xs : List α} {title? : α → Option (Element × String)},
      xs.filterMap title? = ((blockPass.run .blank story).filterMap Item.title?).map r.title →
      xs ≠ [] := by
    rintro α xs title? htitles rfl
    exact hstream (List.map_eq_nil_iff.1 htitles.symm)
  obtain ⟨novel, hnovel, hnovelTitles⟩ := Novel.genre.exists_project_eq_ok r hstream
  obtain ⟨script, hscript, hscriptTitles⟩ := Script.genre.exists_project_eq_ok r hstream
  obtain ⟨info, hinfo, hinfoTitles⟩ := SceneInfo.exists_project_eq_ok r hstream
  obtain ⟨outline, houtline, houtlineTitles⟩ := Outline.exists_project_eq_ok r h
  obtain ⟨plot, hplot, hplotTitles⟩ := Plot.exists_project_eq_ok r h
  refine ⟨⟨novel, hnovel, hne hnovelTitles⟩, ⟨script, hscript, hne hscriptTitles⟩,
    ⟨info, hinfo, hne hinfoTitles⟩, ⟨outline, houtline, ?_⟩, ⟨plot, hplot, ?_⟩, fun f ↦ ?_⟩
  · rintro rfl
    simpa [h] using houtlineTitles.symm
  · rintro rfl
    simpa [h] using hplotTitles.symm
  · cases f with
    | outline => exact ⟨_, by rw [Sources.render, houtline]; rfl⟩
    | plot => exact ⟨_, by rw [Sources.render, hplot]; rfl⟩
    | script => exact ⟨_, by rw [Sources.render, hscript]; rfl⟩
    | novel => exact ⟨_, by rw [Sources.render, hnovel]; rfl⟩
    | info => exact ⟨_, by rw [Sources.render, hinfo]; rfl⟩

/-- A scene without a title of which nothing is told: an act that is the same as none, an act whose
verb is unknown, and a line that a tag blanks out. -/
theorem formats_ok_of_ne_nil_blanks :
    let r : Resolver := ⟨.ofList [("void", " ")], .empty, "$"⟩
    let story := [bareScene ["#! P", "[-:same:-]again", "[T:fly:]off", "$void"]]
    story ≠ [] ∧ ∃ actions, compileActions story = .ok actions ∧
      (∃ ps, Novel.genre.project r (applyInstructions actions) = .ok ps ∧ ps ≠ []) ∧
      ∃ records, SceneInfo.project r (applyInstructions actions) = .ok records ∧
        records ≠ [] := by
  intro r story
  have hne : story ≠ [] := List.cons_ne_nil _ _
  obtain ⟨actions, hactions, hnovel, -, hinfo, -⟩ := (formats_ok_of_ne_nil r story).2 hne
  exact ⟨hne, actions, hactions, hnovel, hinfo⟩

end Manuscript
