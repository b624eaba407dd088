import Manuscript.Proofs.Compile.Passes

/-!
# The blocks of a compiled story

A compiled story is the concatenation of one block for each record. The block of a book, chapter or
episode is its title. The block of a scene is its title, its five facets and the scene start, then
the content, and then the scene end.

The content is a function of the body lines alone (`sceneContent`). That rests on three facts: both
states of the later passes are reset at a scene start, the markers before it leave no trace in them,
and no body line makes a scene start or a scene end of its own (`isActOr_of_parseLine?`). So neither
an alias nor an act of one scene is seen in another, and only the facets are carried on.
-/

namespace Manuscript

/-! ### What body lines make -/

namespace Marker

/-- Whether a body line can make the marker. -/
def isBodyLine : Marker → Bool
  | comment _ => true
  | heading _ => true
  | instruction _ => true
  | _ => false

/-- Whether the marker can stand inside a scene of a cleaned stream. -/
def isContent : Marker → Bool
  | comment _ => true
  | heading _ => true
  | lineBreak => true
  | paragraphStart => true
  | paragraphEnd => true
  | _ => false

end Marker

/-- Whether an item is an act or a marker of a class. -/
def Item.isActOr {α : Type} (p : Marker → Bool) : Item α → Bool
  | .marker m => p m
  | .act _ => true

/-- What a body line makes: a comment, a heading or an instruction, the act of a bracket, or
prose. -/
theorem parseLine?_eq_some {line : String} {x : RawAction} (h : parseLine? line = some x) :
    (∃ m : Marker, m.isBodyLine ∧ x = .marker m) ∨
      (∃ head tail d, Draft.ofBracket? head tail = some d ∧ x = .act d) ∨
      ∃ text, x = .act (.prose text) := by
  rw [parseLine?] at h
  split at h
  · cases h
  · rw [readLine?] at h
    split at h
    · exact .inl ⟨_, rfl, (Option.some.inj h).symm⟩
    · split at h
      · exact .inl ⟨_, rfl, (Option.some.inj h).symm⟩
      · split at h
        · exact .inl ⟨_, rfl, (Option.some.inj h).symm⟩
        · split at h
          · obtain ⟨d, hd, rfl⟩ := Option.map_eq_some_iff.1 h
            exact .inr (.inl ⟨_, _, d, hd, rfl⟩)
          · exact .inr (.inr ⟨_, (Option.some.inj h).symm⟩)

/-- A body line makes an act, a comment, a heading or an instruction, and no other item. -/
theorem isActOr_of_parseLine? {line : String} {x : RawAction} (h : parseLine? line = some x) :
    x.isActOr Marker.isBodyLine := by
  rcases parseLine?_eq_some h with ⟨m, hm, rfl⟩ | ⟨_, _, d, -, rfl⟩ | ⟨text, rfl⟩
  · exact hm
  · rfl
  · rfl

/-- Carrying fields forward keeps the kinds of items. -/
theorem isActOr_resolveSameFrom {p : Marker → Bool} {raw : List RawAction}
    (h : ∀ x ∈ raw, x.isActOr p) (previous : Option Act) :
    ∀ y ∈ resolveSameFrom previous raw, y.isActOr p := by
  rw [resolveSameFrom_eq_run]
  refine Pass.forall_mem_run (fun s x hx y hy ↦ ?_) previous
  cases x with
  | marker m =>
    obtain rfl := List.mem_singleton.1 hy
    exact h _ hx
  | act d =>
    obtain ⟨a, -, rfl⟩ := Option.map_eq_some_iff.1 (Option.mem_toList.1 hy)
    rfl

/-- Carrying out the instructions of body lines leaves content. -/
theorem isActOr_applyInstructionsFrom {actions : List Action}
    (h : ∀ x ∈ actions, x.isActOr Marker.isBodyLine) (aliases : Table String) :
    ∀ y ∈ applyInstructionsFrom aliases actions, y.isActOr Marker.isContent := by
  rw [applyInstructionsFrom_eq_run]
  refine Pass.forall_mem_run (fun s x hx y hy ↦ ?_) aliases
  have hline := h x hx
  cases x with
  | act a =>
    obtain rfl := List.mem_singleton.1 hy
    rfl
  | marker m =>
    cases m with
    | instruction i =>
      obtain ⟨m, hm, rfl⟩ := Option.map_eq_some_iff.1 (Option.mem_toList.1 hy)
      rcases Instruction.marker?_eq_some hm with rfl | rfl | rfl <;> rfl
    | comment t =>
      obtain rfl := List.mem_singleton.1 hy
      rfl
    | heading t =>
      obtain rfl := List.mem_singleton.1 hy
      rfl
    | _ => exact absurd hline (by simp [Item.isActOr, Marker.isBodyLine])

/-! ### Blocks -/

/-- The cleaned items that the body lines of a scene make. -/
def sceneContent (body : List String) : List Action :=
  applyInstructions (resolveSame (body.filterMap parseLine?))

theorem isContent_of_mem_sceneContent {body : List String} :
    ∀ x ∈ sceneContent body, x.isActOr Marker.isContent := by
  refine isActOr_applyInstructionsFrom (isActOr_resolveSameFrom (fun x hx ↦ ?_) none) .empty
  obtain ⟨line, -, hline⟩ := List.mem_filterMap.1 hx
  exact isActOr_of_parseLine? hline

/-- The block of a record in the cleaned stream, where a scene has the given facets. -/
def recordBlock (head : SceneHead) (r : StoryRecord) : List Action :=
  match r.element with
  | .scene =>
    (sceneOpening r.fields.title head).map .marker ++ sceneContent r.fields.body
      ++ [.marker .sceneEnd]
  | e => [.marker (.title e r.fields.title)]

theorem recordBlock_of_scene (head : SceneHead) {r : StoryRecord} (h : r.element = .scene) :
    recordBlock head r =
      (sceneOpening r.fields.title head).map .marker ++ sceneContent r.fields.body
        ++ [.marker .sceneEnd] := by
  rw [recordBlock, h]

theorem recordBlock_of_ne_scene (head : SceneHead) {r : StoryRecord} (h : r.element ≠ .scene) :
    recordBlock head r = [.marker (.title r.element r.fields.title)] := by
  rw [recordBlock]
  split
  · exact absurd ‹_› h
  · rfl

/-- Records to their blocks of the cleaned stream. The state is the facets of the scene before. -/
def blockPass : Pass SceneHead StoryRecord Action where
  next := rawPass.next
  out previous r := recordBlock (rawPass.next previous r) r

/-- Inside a scene, fields are carried forward from nothing. -/
theorem carryPass_run_sceneBlock (previous : Option Act) (fields : StoryFields)
    (head : SceneHead) :
    carryPass.run previous (sceneBlock fields head) =
      (sceneOpening fields.title head).map .marker
        ++ resolveSame (fields.body.filterMap parseLine?) ++ [.marker .sceneEnd] := by
  -- the scene start is the last marker of the opening
  have hafter : carryPass.after previous ((sceneOpening fields.title head).map .marker) = none := by
    rw [sceneOpening, List.map_append, Pass.after_append]
    rfl
  rw [sceneBlock, Pass.run_append, Pass.run_append, carryPass_run_markers, hafter, resolveSame,
    resolveSameFrom_eq_run]
  rfl

/-- Inside a scene, instructions are carried out without aliases from before. -/
theorem directivePass_run_scene (aliases : Table String) (title : String) (head : SceneHead)
    (actions : List Action) :
    directivePass.run aliases
        ((sceneOpening title head).map .marker ++ actions ++ [.marker .sceneEnd]) =
      (sceneOpening title head).map .marker ++ applyInstructions actions
        ++ [.marker .sceneEnd] := by
  have hafter :
      directivePass.after aliases ((sceneOpening title head).map .marker) = .empty := by
    rw [sceneOpening, List.map_append, Pass.after_append]
    rfl
  rw [Pass.run_append, Pass.run_append, hafter, applyInstructions, applyInstructionsFrom_eq_run]
  rfl

/-- **Whatever stood before it**, the raw block of a record becomes its cleaned block. -/
theorem run_rawPass_out (aliases : Table String) (previous : Option Act) (head : SceneHead)
    (r : StoryRecord) :
    directivePass.run aliases (carryPass.run previous (rawPass.out head r)) =
      blockPass.out head r := by
  cases hr : r.element with
  | scene =>
    have hraw : rawPass.out head r = sceneBlock r.fields (rawPass.next head r) := by
      simp [rawPass, hr]
    have hblock := recordBlock_of_scene (rawPass.next head r) hr
    rw [hraw, carryPass_run_sceneBlock, directivePass_run_scene]
    exact hblock.symm
  | _ => simp [rawPass, blockPass, recordBlock, carryPass, directivePass, hr]

/-- The later passes turn a raw stream into the blocks of its records, from any state. -/
theorem run_rawPass_run (aliases : Table String) (previous : Option Act) (head : SceneHead)
    (story : Story) :
    directivePass.run aliases (carryPass.run previous (rawPass.run head story)) =
      blockPass.run head story := by
  induction story generalizing aliases previous head with
  | nil => rfl
  | cons r rs ih =>
    rw [Pass.run_cons, Pass.run_append, Pass.run_append, run_rawPass_out, ih, Pass.run_cons]
    rfl

theorem applyInstructions_resolveSame_rawActions (story : Story) :
    applyInstructions (resolveSame (rawActions story)) = blockPass.run .blank story := by
  rw [applyInstructions, resolveSame, rawActions, applyInstructionsFrom_eq_run,
    resolveSameFrom_eq_run, rawActionsFrom_eq_run, run_rawPass_run]

/-! ### Compilation succeeds -/

theorem recordBlock_ne_nil (head : SceneHead) (r : StoryRecord) : recordBlock head r ≠ [] := by
  rcases eq_or_ne r.element .scene with hr | hr
  · rw [recordBlock_of_scene head hr]
    exact List.concat_ne_nil _ _
  · rw [recordBlock_of_ne_scene head hr]
    exact List.cons_ne_nil _ _

theorem blockPass_run_ne_nil {story : Story} (h : story ≠ []) (head : SceneHead) :
    blockPass.run head story ≠ [] := by
  obtain ⟨r, rs, rfl⟩ := List.exists_cons_of_ne_nil h
  rw [Pass.run_cons]
  exact List.append_ne_nil_of_left_ne_nil (recordBlock_ne_nil _ r) _

/-- A story with records compiles. -/
theorem compileActions_of_ne_nil {story : Story} (h : story ≠ []) :
    compileActions story = .ok (resolveSame (rawActions story)) := by
  have hrun := applyInstructions_resolveSame_rawActions story
  have hresolved : resolveSame (rawActions story) ≠ [] := by
    intro hnil
    rw [hnil] at hrun
    exact blockPass_run_ne_nil h _ hrun.symm
  have hraw : rawActions story ≠ [] := by
    intro hnil
    rw [hnil] at hresolved
    exact hresolved rfl
  simp only [compileActions, List.isEmpty_iff, h, hraw, hresolved, if_false]

/-- Only the story without records does not compile. -/
theorem compileActions_eq_error_iff {story : Story} {e : Error} :
    compileActions story = .error e ↔ story = [] ∧ e = .noStoryRecords := by
  rcases eq_or_ne story [] with rfl | h
  · rw [compileActions]
    simp [eq_comm]
  · rw [compileActions_of_ne_nil h]
    simp [h]

/-- The cleaned stream of a story with records is the run of its blocks. -/
theorem cleanedActions_of_ne_nil {story : Story} (h : story ≠ []) :
    cleanedActions story = .ok (blockPass.run .blank story) := by
  rw [cleanedActions, compileActions_of_ne_nil h, ← applyInstructions_resolveSame_rawActions]
  rfl

/-! ### Scenes of a stream -/

/-- The items between every scene start of a stream and the scene end after it. -/
def scenesOf : List Action → List (List Action)
  | [] => []
  | .marker .sceneStart :: rest => rest.takeWhile (· ≠ .marker .sceneEnd) :: scenesOf rest
  | _ :: rest => scenesOf rest

theorem scenesOf_append {xs : List Action} (h : .marker .sceneStart ∉ xs) (ys : List Action) :
    scenesOf (xs ++ ys) = scenesOf ys := by
  induction xs with
  | nil => rfl
  | cons x xs ih =>
    obtain ⟨hx, hxs⟩ := not_or.1 (mt List.mem_cons.2 h)
    rw [List.cons_append, scenesOf, ih hxs]
    rintro rfl
    exact hx rfl

theorem scenesOf_recordBlock_append (head : SceneHead) (r : StoryRecord) (rest : List Action) :
    scenesOf (recordBlock head r ++ rest) =
      (if r.element = .scene then [sceneContent r.fields.body] else []) ++ scenesOf rest := by
  cases hr : r.element with
  | scene =>
    have hne : ∀ m : Marker, m.isContent = false → .marker m ∉ sceneContent r.fields.body :=
      fun m hm hmem ↦ by
        have := isContent_of_mem_sceneContent _ hmem
        rw [Item.isActOr, hm] at this
        cases this
    have htake : (sceneContent r.fields.body ++ .marker .sceneEnd :: rest).takeWhile
        (· ≠ .marker .sceneEnd) = sceneContent r.fields.body := by
      rw [List.takeWhile_append_of_pos, List.takeWhile_cons_of_neg (by simp), List.append_nil]
      intro x hx
      exact decide_eq_true fun heq ↦ hne .sceneEnd rfl (heq ▸ hx)
    -- past the scene start, the content has no other one, and the scene goes up to the end mark
    simp only [recordBlock, hr, sceneOpening, Facet.all, List.map_cons, List.map_nil,
      List.cons_append, List.nil_append, List.append_assoc, scenesOf, if_true]
    rw [htake, scenesOf_append (hne .sceneStart rfl)]
    rfl
  | _ => simp [recordBlock, hr, scenesOf]

/-- **The scenes of a compiled story** are the contents of its scene records, in order. -/
theorem scenesOf_blockPass_run (head : SceneHead) (story : Story) :
    scenesOf (blockPass.run head story) =
      (story.ofKind .scene).map fun r ↦ sceneContent r.fields.body := by
  induction story generalizing head with
  | nil => rfl
  | cons r rs ih =>
    have hout : blockPass.out head r = recordBlock (rawPass.next head r) r := rfl
    rw [Pass.run_cons, hout, scenesOf_recordBlock_append, ih, Story.ofKind, Story.ofKind,
      List.filter_cons]
    split <;> simp_all

/-! ### The block structure of a compiled story -/

/-- The form of the block that a record gives a cleaned stream. Only the five facets of a scene are
left open. -/
inductive IsRecordBlock : StoryRecord → List Action → Prop
  | title {r : StoryRecord} (h : r.element ≠ .scene) :
    IsRecordBlock r [.marker (.title r.element r.fields.title)]
  | scene {r : StoryRecord} (h : r.element = .scene) (head : SceneHead)
      (hcontent : ∀ x ∈ sceneContent r.fields.body, x.isActOr Marker.isContent) :
    IsRecordBlock r
      ([.marker (.title .scene r.fields.title), .marker (.facet .camera head.camera),
        .marker (.facet .stage head.stage), .marker (.facet .year head.year),
        .marker (.facet .date head.date), .marker (.facet .time head.time), .marker .sceneStart]
        ++ sceneContent r.fields.body ++ [.marker .sceneEnd])

theorem isRecordBlock_recordBlock (head : SceneHead) (r : StoryRecord) :
    IsRecordBlock r (recordBlock head r) := by
  rcases eq_or_ne r.element .scene with hr | hr
  · rw [recordBlock_of_scene head hr]
    exact .scene hr head isContent_of_mem_sceneContent
  · rw [recordBlock_of_ne_scene head hr]
    exact .title hr

/-- **A compiled story is made of the blocks of its records**, and what stands between the start
and the end of a scene depends on nothing but that scene's body: two scene records with the same
body have the same content, in whatever stories they stand and whatever stands around them. -/
theorem cleanedActions_blocks :
    (∀ story : Story, story ≠ [] →
      ∃ blocks, cleanedActions story = .ok blocks.flatten ∧
        List.Forall₂ IsRecordBlock story blocks) ∧
    ∀ (s t : Story) (i j : ℕ) (r r' : StoryRecord),
      (s.ofKind .scene)[i]? = some r → (t.ofKind .scene)[j]? = some r' →
      r.fields.body = r'.fields.body →
      ∃ as bs content, cleanedActions s = .ok as ∧ cleanedActions t = .ok bs ∧
        (scenesOf as)[i]? = some content ∧ (scenesOf bs)[j]? = some content := by
  have hne : ∀ {s : Story} {i : ℕ} {r : StoryRecord}, (s.ofKind .scene)[i]? = some r → s ≠ [] := by
    rintro s i r h rfl
    cases h
  refine ⟨fun story h ↦ ⟨blockPass.blocks .blank story, ?_, ?_⟩, ?_⟩
  · rw [Pass.flatten_blocks]
    exact cleanedActions_of_ne_nil h
  · exact Pass.forall₂_blocks (fun _ r ↦ isRecordBlock_recordBlock _ r) _ story
  · intro s t i j r r' hr hr' hbody
    refine ⟨_, _, sceneContent r.fields.body, cleanedActions_of_ne_nil (hne hr),
      cleanedActions_of_ne_nil (hne hr'), ?_, ?_⟩
    · rw [scenesOf_blockPass_run, List.getElem?_map, hr]
      rfl
    · rw [scenesOf_blockPass_run, List.getElem?_map, hr', hbody]
      rfl

/-- A scene of which only the body is written. -/
def bareScene (body : List String) : StoryRecord :=
  ⟨.scene, "", { StoryFields.empty with body := body }⟩

/-- The alias and the act of a first scene are not seen in the second. -/
theorem cleanedActions_blocks_second_scene :
    let second := bareScene ["[-:same:-]again", "[T:be:]T"]
    let story := [bareScene ["#! A T=taro", "[T:talk:]I am T"], second]
    story ≠ [] ∧
      (∃ blocks, cleanedActions story = .ok blocks.flatten ∧
        List.Forall₂ IsRecordBlock story blocks) ∧
      ∃ as bs content, cleanedActions story = .ok as ∧ cleanedActions [second] = .ok bs ∧
        (scenesOf as)[1]? = some content ∧ (scenesOf bs)[0]? = some content := by
  intro second story
  have hne : story ≠ [] := List.cons_ne_nil _ _
  exact ⟨hne, cleanedActions_blocks.1 story hne,
    cleanedActions_blocks.2 story [second] 1 0 second second rfl rfl rfl⟩

example : sceneContent ["[-:same:-]again", "[T:be:]T"] = [.act ⟨.be, "T", "", "T", [], ""⟩] := by
  decide

end Manuscript
