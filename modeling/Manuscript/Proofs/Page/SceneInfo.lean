import Manuscript.Proofs.Compile.SceneDate
import Manuscript.Proofs.Page.Titles

/-!
# The tables of the scene information

The scene information of a story has one table for each scene record, in manuscript order: a
transition, the acts of the scene, and what happened in it. A mark of the transition says whether
the text that the facet was resolved to differs from the text of the scene before.

The information is made by one pass over the stream (`coursePass`), whose state is the course: the
facets as last set, the facets of the scene before, and the acts so far. Everything rests on what is
known between two records (`Course.between`): the facets last set are those of the last scene start,
and no acts are waiting. So a scene is compared with the scene before it whatever titles stand
between the two (`tableRecords_run_blockPass_run`).
-/

namespace Manuscript

/-! ### Tables -/

/-- The facets that the scenes of a story are resolved to, in order, behind the facets from before
the first scene. -/
def Story.heads (story : Story) : List SceneHead :=
  (story.ofKind .scene).scanl (fun head record ↦ resolveScene head record.fields.scene) .blank

/-- The acts that the body lines of a scene make. -/
def sceneActs (body : List String) : List Act :=
  (sceneContent body).filterMap Item.act?

/-- Whether a record belongs to the table of a scene, which titles and comments do not. -/
def InfoRecord.isOfTable : InfoRecord → Bool
  | title _ _ => false
  | transition _ _ => true
  | comment _ => false
  | act _ _ _ => true
  | info _ => true

/-- An act as it is shown: its verb, its subject and its gist. -/
structure ShownAct where
  verb : Verb
  subject : String
  text : String

namespace ShownAct

/-- An act with its tags resolved. -/
def ofAct (r : Resolver) (a : Act) : ShownAct :=
  ⟨a.verb, r.subject a.subject, r.text a.subject a.gist⟩

/-- Whether neither the subject nor the gist shows anything. -/
def isBlank (a : ShownAct) : Bool :=
  Text.isBlankText a.subject && Text.isBlankText a.text

/-- The acts that show something, with their tags resolved. -/
def ofActs (r : Resolver) (acts : List Act) : List ShownAct :=
  (acts.map (ofAct r)).filter fun a ↦ !a.isBlank

def record (a : ShownAct) : InfoRecord :=
  .act a.verb a.subject a.text

end ShownAct

/-- What the scene information shows of one scene. -/
structure SceneTable where
  head : SceneHead
  marks : SceneSheet Mark
  acts : List ShownAct
  info : SceneInfo

namespace SceneTable

/-- The records of a table. -/
def records (t : SceneTable) : List InfoRecord :=
  .transition t.head t.marks :: t.acts.map ShownAct.record ++ [.info t.info]

/-- The table shows a scene with the given facets, after a scene with the given facets. -/
structure Shows (r : Resolver) (previous current : SceneHead) (scene : StoryRecord)
    (t : SceneTable) : Prop where
  head : t.head = current.retag r
  /-- The texts are compared before their tags are resolved. -/
  marks : ∀ f, t.marks.get f = .unchanged ↔ current.get f = previous.get f
  acts : t.acts = ShownAct.ofActs r (sceneActs scene.fields.body)
  info : t.info = (SceneInfo.ofActs r.isPerson (sceneActs scene.fields.body)).retag r

/-- The table of a scene with the given facets, after a scene with the given facets. -/
def ofScene (r : Resolver) (previous current : SceneHead) (scene : StoryRecord) : SceneTable :=
  ⟨current.retag r, transitionMarks previous current,
    ShownAct.ofActs r (sceneActs scene.fields.body),
    (SceneInfo.ofActs r.isPerson (sceneActs scene.fields.body)).retag r⟩

theorem shows_ofScene (r : Resolver) (previous current : SceneHead) (scene : StoryRecord) :
    (ofScene r previous current scene).Shows r previous current scene where
  head := rfl
  marks f := by
    rw [ofScene, transitionMarks, SceneSheet.get_zipWith, eq_comm (a := current.get f)]
    split <;> simp_all
  acts := rfl
  info := rfl

/-- The tables of scene records, after a scene with the given facets. -/
def ofScenes (r : Resolver) : SceneHead → List StoryRecord → List SceneTable
  | _, [] => []
  | previous, scene :: scenes =>
    let current := resolveScene previous scene.fields.scene
    ofScene r previous current scene :: ofScenes r current scenes

theorem length_ofScenes (r : Resolver) (previous : SceneHead) (scenes : List StoryRecord) :
    (ofScenes r previous scenes).length = scenes.length := by
  induction scenes generalizing previous with
  | nil => rfl
  | cons scene scenes ih => rw [ofScenes, List.length_cons, List.length_cons, ih]

/-- Every table is made with the facets of the row of scenes up to it. -/
theorem getElem?_ofScenes (r : Resolver) (previous : SceneHead) {scenes : List StoryRecord} {i : ℕ}
    {scene : StoryRecord} (h : scenes[i]? = some scene) :
    ∃ before,
      (scenes.scanl (fun head record ↦ resolveScene head record.fields.scene) previous)[i]? =
        some before ∧
      (ofScenes r previous scenes)[i]? =
        some (ofScene r before (resolveScene before scene.fields.scene) scene) := by
  induction scenes generalizing previous i with
  | nil => cases h
  | cons s scenes ih =>
    cases i with
    | zero =>
      obtain rfl := Option.some.inj h
      exact ⟨previous, by rw [List.scanl_cons]; rfl, rfl⟩
    | succ i =>
      obtain ⟨before, hbefore, htable⟩ := ih (resolveScene previous s.fields.scene) h
      exact ⟨before, by rw [List.scanl_cons]; exact hbefore, htable⟩

end SceneTable

/-! ### The pass -/

namespace SceneInfo

/-- Items to records, with tags not yet resolved. The state is the course. -/
def coursePass (isPerson : String → Bool) : Pass Course Action InfoRecord where
  next
    | c, .act a => { c with acts := c.acts ++ [a] }
    | c, .marker m => (markerRecords isPerson c m).2
  out
    | _, .act a => [.act a.verb a.subject a.gist]
    | c, .marker m => (markerRecords isPerson c m).1

theorem recordsFrom_eq_run (isPerson : String → Bool) (c : Course) (actions : List Action) :
    recordsFrom isPerson c actions = (coursePass isPerson).run c actions := by
  induction actions generalizing c with
  | nil => rfl
  | cons x rest ih =>
    rw [Pass.run_cons]
    cases x with
    | act a => rw [recordsFrom, ih]; rfl
    | marker m =>
      rw [recordsFrom]
      exact congrArg _ (ih _)

/-- The records with their tags resolved, less those that show nothing. -/
def shown (r : Resolver) (records : List InfoRecord) : List InfoRecord :=
  (records.map (InfoRecord.retag r)).filter fun record ↦ !record.isBlank

/-- The scene information is what is shown of the pass. -/
theorem eq_shown_of_project_eq_ok {r : Resolver} {actions : List Action}
    {records : List InfoRecord} (h : project r actions = .ok records) :
    records = shown r ((coursePass r.isPerson).run .start actions) := by
  rw [project] at h
  split at h
  · cases h
  · rw [Format.nonEmpty] at h
    split at h
    · cases h
    · rw [shown, ← recordsFrom_eq_run]
      exact (Except.ok.inj h).symm

/-- What is shown of the records that belong to tables. -/
def tableRecords (r : Resolver) (records : List InfoRecord) : List InfoRecord :=
  (shown r records).filter InfoRecord.isOfTable

variable {r : Resolver}

theorem tableRecords_append (xs ys : List InfoRecord) :
    tableRecords r (xs ++ ys) = tableRecords r xs ++ tableRecords r ys := by
  simp only [tableRecords, shown, List.map_append, List.filter_append]

/-- A comment belongs to no table, whether it shows something or not. -/
theorem tableRecords_comment (t : String) : tableRecords r [.comment t] = [] := by
  simp only [tableRecords, shown, InfoRecord.retag, List.map_cons, List.map_nil, List.filter_cons]
  split <;> rfl

/-- An act belongs to its table if it shows something. -/
theorem tableRecords_act (a : Act) :
    tableRecords r [.act a.verb a.subject a.gist] =
      (ShownAct.ofActs r [a]).map ShownAct.record := by
  show ([(ShownAct.ofAct r a).record].filter fun x ↦ !x.isBlank).filter InfoRecord.isOfTable =
    ([ShownAct.ofAct r a].filter fun b ↦ !b.isBlank).map ShownAct.record
  have hblank : (ShownAct.ofAct r a).record.isBlank = (ShownAct.ofAct r a).isBlank := rfl
  rw [List.filter_singleton, List.filter_singleton, hblank]
  cases (ShownAct.ofAct r a).isBlank <;> rfl

/-! ### The table of a block -/

/-- The course between two records of a story, after a scene with the given facets. -/
def Course.between (head : SceneHead) : Course := ⟨head, head, []⟩

/-- Inside a scene, acts are noted and belong to the table, and nothing else does. -/
theorem run_of_isContent {actions : List Action}
    (h : ∀ x ∈ actions, x.isActOr Marker.isContent) (c : Course) :
    (coursePass r.isPerson).after c actions =
        { c with acts := c.acts ++ actions.filterMap Item.act? } ∧
      tableRecords r ((coursePass r.isPerson).run c actions) =
        (ShownAct.ofActs r (actions.filterMap Item.act?)).map ShownAct.record := by
  induction actions generalizing c with
  | nil => exact ⟨by rw [Pass.after_nil]; simp, rfl⟩
  | cons x rest ih =>
    obtain ⟨hx, hrest⟩ := List.forall_mem_cons.1 h
    rw [Pass.after_cons, Pass.run_cons, tableRecords_append]
    cases x with
    | act a =>
      obtain ⟨hafter, hrun⟩ := ih hrest ((coursePass r.isPerson).next c (.act a))
      refine ⟨?_, ?_⟩
      · rw [hafter, List.filterMap_cons_some (f := Item.act?) (a := .act a) rfl]
        simp [coursePass]
      · rw [hrun, List.filterMap_cons_some (f := Item.act?) (a := .act a) rfl]
        refine Eq.trans (congrArg (· ++ _) (tableRecords_act a)) ?_
        rw [← List.map_append, ShownAct.ofActs, ShownAct.ofActs, ← List.filter_append,
          ← List.map_append]
        rfl
    | marker m =>
      -- a marker of the content makes a comment or nothing, and leaves the course as it is
      have hm : (coursePass r.isPerson).next c (.marker m) = c ∧
          tableRecords r ((coursePass r.isPerson).out c (.marker m)) = [] := by
        cases m with
        | comment t => exact ⟨rfl, tableRecords_comment t⟩
        | heading t => exact ⟨rfl, tableRecords_comment t⟩
        | lineBreak | paragraphStart | paragraphEnd => exact ⟨rfl, rfl⟩
        | _ => exact absurd hx (by simp [Item.isActOr, Marker.isContent])
      rw [hm.1, hm.2, List.nil_append, List.filterMap_cons_none (f := Item.act?) rfl]
      exact ih hrest c

/-- The opening of a scene makes its transition, and afterwards no acts are waiting. -/
theorem run_opening (previous current : SceneHead) (title : String) :
    (coursePass r.isPerson).after (.between previous)
        ((sceneOpening title current).map .marker) = .between current ∧
      tableRecords r ((coursePass r.isPerson).run (.between previous)
        ((sceneOpening title current).map .marker)) =
        [.transition (current.retag r) (transitionMarks previous current)] :=
  ⟨rfl, rfl⟩

/-- **The block of a scene** makes its table, and the course moves on to its facets. -/
theorem run_recordBlock_of_scene (previous current : SceneHead) {scene : StoryRecord}
    (h : scene.element = .scene) :
    (coursePass r.isPerson).after (.between previous) (recordBlock current scene) =
        .between current ∧
      tableRecords r ((coursePass r.isPerson).run (.between previous)
        (recordBlock current scene)) =
        (SceneTable.ofScene r previous current scene).records := by
  obtain ⟨hopened, hopening⟩ := run_opening (r := r) previous current scene.fields.title
  have hbody : ∀ x ∈ sceneContent scene.fields.body, x.isActOr Marker.isContent :=
    isContent_of_mem_sceneContent
  obtain ⟨hnoted, hcontent⟩ := run_of_isContent (r := r) hbody (.between current)
  constructor
  · rw [recordBlock_of_scene current h, Pass.after_append, Pass.after_append, hopened, hnoted]
    rfl
  · rw [recordBlock_of_scene current h, Pass.run_append, Pass.run_append, Pass.after_append,
      tableRecords_append, tableRecords_append, hopening, hopened, hcontent, hnoted]
    rfl

/-- A record that is no scene makes no table and leaves the course as it is. -/
theorem run_recordBlock_of_ne_scene (head facets : SceneHead) {record : StoryRecord}
    (h : record.element ≠ .scene) :
    (coursePass r.isPerson).after (.between head) (recordBlock facets record) = .between head ∧
      tableRecords r ((coursePass r.isPerson).run (.between head) (recordBlock facets record)) =
        [] := by
  rw [recordBlock_of_ne_scene facets h]
  exact ⟨rfl, rfl⟩

/-! ### The tables of a story -/

/-- **The tables of a story** are those of its scene records, in order, each made with the facets of
the scene and of the scene before. -/
theorem tableRecords_run_blockPass_run (head : SceneHead) (story : Story) :
    tableRecords r ((coursePass r.isPerson).run (.between head) (blockPass.run head story)) =
      (SceneTable.ofScenes r head (story.ofKind .scene)).flatMap SceneTable.records := by
  induction story generalizing head with
  | nil => rfl
  | cons record rest ih =>
    have hout : blockPass.out head record = recordBlock (rawPass.next head record) record := rfl
    rw [Pass.run_cons, Pass.run_append, tableRecords_append, hout]
    rcases eq_or_ne record.element .scene with hrecord | hrecord
    · have hnext : rawPass.next head record = resolveScene head record.fields.scene :=
        if_pos hrecord
      obtain ⟨hafter, hrun⟩ := run_recordBlock_of_scene (r := r) head
        (resolveScene head record.fields.scene) hrecord
      show _ ++ tableRecords r ((coursePass r.isPerson).run _
        (blockPass.run (rawPass.next head record) rest)) = _
      rw [hnext, hafter, hrun, ih, Story.ofKind, Story.ofKind,
        List.filter_cons_of_pos (by simpa using hrecord), SceneTable.ofScenes, List.flatMap_cons]
    · have hnext : rawPass.next head record = head := if_neg hrecord
      obtain ⟨hafter, hrun⟩ := run_recordBlock_of_ne_scene (r := r) head head hrecord
      show _ ++ tableRecords r ((coursePass r.isPerson).run _
        (blockPass.run (rawPass.next head record) rest)) = _
      rw [hnext, hafter, hrun, ih, Story.ofKind, Story.ofKind,
        List.filter_cons_of_neg (by simpa using hrecord), List.nil_append]

end SceneInfo

/-- A facet that is written to be the same takes the text of the scene before. The year is apart,
for a step of the date may take it along. -/
theorem get_resolveScene_of_same (previous : SceneHead) {scene : SceneSheet SceneValue} {f : Facet}
    (hyear : f ≠ .year) (h : scene.get f = .same) :
    (resolveScene previous scene).get f = previous.get f := by
  have hplain : (scene.zipWith (fun v p ↦ v.resolve p) previous).get f = previous.get f := by
    rw [SceneSheet.get_zipWith, h]
    rfl
  cases hdate : scene.date with
  | next step =>
    have hne : f ≠ .date := by
      rintro rfl
      have hsame : scene.date = .same := h
      rw [hdate] at hsame
      cases hsame
    rw [resolveScene_of_next previous hdate, SceneSheet.get_set_of_ne _ _ hne,
      SceneSheet.get_set_of_ne _ _ hyear, hplain]
  | _ => rw [resolveScene_of_ne_next previous (by simp [hdate]), hplain]

/-- **The scene information of a story has one table for each scene**, in manuscript order: a
transition, then the acts of the scene that show something, then what happened in it. A facet is
marked as unchanged exactly if its text, before tags are resolved, is that of the scene before;
before the first scene all texts are empty. So a camera, stage, date or time that is written to be
the same is marked as unchanged. -/
theorem exists_tables_of_story (r : Resolver) {story : Story} (h : story ≠ []) :
    ∃ (actions : List Action) (records : List InfoRecord) (tables : List SceneTable),
      cleanedActions story = .ok actions ∧ SceneInfo.project r actions = .ok records ∧
      records.filter InfoRecord.isOfTable = tables.flatMap SceneTable.records ∧
      tables.length = (story.ofKind .scene).length ∧
      ∀ i scene table, (story.ofKind .scene)[i]? = some scene → tables[i]? = some table →
        ∃ previous current, story.heads[i]? = some previous ∧
          story.heads[i + 1]? = some current ∧
          current = resolveScene previous scene.fields.scene ∧
          table.Shows r previous current scene ∧
          ∀ f ≠ .year, scene.fields.scene.get f = .same → table.marks.get f = .unchanged := by
  have hactions := cleanedActions_of_ne_nil h
  have htitles : (blockPass.run .blank story).filterMap Item.title? ≠ [] := by
    rw [filterMap_title?_blockPass_run]
    exact mt List.map_eq_nil_iff.1 h
  obtain ⟨records, hrecords, -⟩ := SceneInfo.exists_project_eq_ok r htitles
  refine ⟨_, records, SceneTable.ofScenes r .blank (story.ofKind .scene), hactions, hrecords, ?_,
    SceneTable.length_ofScenes r .blank _, fun i scene table hscene htable ↦ ?_⟩
  · rw [SceneInfo.eq_shown_of_project_eq_ok hrecords]
    exact SceneInfo.tableRecords_run_blockPass_run .blank story
  · obtain ⟨previous, hprevious, hmade⟩ := SceneTable.getElem?_ofScenes r .blank hscene
    obtain rfl := Option.some.inj (htable.symm.trans hmade)
    have hshows := SceneTable.shows_ofScene r previous
      (resolveScene previous scene.fields.scene) scene
    refine ⟨previous, _, hprevious, ?_, rfl, hshows, fun f hf hsame ↦ ?_⟩
    · rw [Story.heads, List.getElem?_succ_scanl, hprevious, hscene]
      rfl
    · rw [hshows.marks, get_resolveScene_of_same previous hf hsame]

/-- Two scenes with a chapter between them. Two stages that are shown by one name are different, and
the step of the date takes the year along. -/
theorem exists_tables_of_story_new_year :
    let r : Resolver := ⟨.ofList [("garden", "Park"), ("park", "Park")], .empty, "$"⟩
    let first : StoryRecord := ⟨.scene, "", { StoryFields.empty with
      scene := ⟨.text "hana", .text "park", .text "2019", .text "12/31", .empty⟩ }⟩
    let second : StoryRecord := ⟨.scene, "", { StoryFields.empty with
      scene := ⟨.same, .text "garden", .same, .next .day, .same⟩, body := ["[taro:come:]"] }⟩
    let story : Story := [first, ⟨.chapter, "", .empty⟩, second]
    story ≠ [] ∧ ∃ (actions : List Action) (records : List InfoRecord) (tables : List SceneTable)
        (table : SceneTable),
      cleanedActions story = .ok actions ∧ SceneInfo.project r actions = .ok records ∧
      records.filter InfoRecord.isOfTable = tables.flatMap SceneTable.records ∧
      tables.length = 2 ∧ tables[1]? = some table ∧
      table.head = ⟨"hana", "Park", "2020", "1/1", ""⟩ ∧
      table.marks.get .camera = .unchanged ∧ table.marks.get .stage ≠ .unchanged ∧
      table.marks.get .year ≠ .unchanged ∧ table.marks.get .time = .unchanged := by
  intro r first second story
  have hne : story ≠ [] := List.cons_ne_nil _ _
  obtain ⟨actions, records, tables, hactions, hrecords, hfilter, hlength, htables⟩ :=
    exists_tables_of_story r hne
  have hlength : tables.length = 2 := hlength
  have htable : tables[1]? = some tables[1] := List.getElem?_eq_getElem (by omega)
  obtain ⟨previous, current, hprevious, hcurrent, -, hshows, hsame⟩ :=
    htables 1 second tables[1] rfl htable
  have hbefore : story.heads[1]? = some ⟨"hana", "park", "2019", "12/31", ""⟩ := by decide
  have hafter : story.heads[2]? = some ⟨"hana", "garden", "2020", "1/1", ""⟩ := by decide
  obtain rfl := Option.some.inj (hprevious.symm.trans hbefore)
  obtain rfl := Option.some.inj (hcurrent.symm.trans hafter)
  refine ⟨hne, actions, records, tables, tables[1], hactions, hrecords, hfilter, hlength, htable,
    hshows.head.trans (by decide), hsame .camera (by decide) rfl, ?_, ?_,
    hsame .time (by decide) rfl⟩
  · rw [Ne, hshows.marks]
    decide
  · rw [Ne, hshows.marks]
    decide

end Manuscript
