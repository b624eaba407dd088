import Manuscript.Story.Codec

/-!
# Reading back a written record

A story record is written with everything it holds, and all of it but the facets of its scene is
read back. A facet is read from the words of a front matter and written by the name of its kind, and
no name of a kind is such a word: the facets that are not literal texts come back as literal texts,
the names of their kinds, and a literal text, which is written as a variant, cannot be read at all
(`SceneValue.readBack?`). So no record is read back as itself.
-/

namespace Manuscript

/-! ### Entries with text keys -/

namespace Datum

theorem lookup_map_text (key : String) (es : List (String × Datum)) :
    lookup key (es.map fun e ↦ (.text e.1, e.2)) = es.lookup key := by
  induction es with
  | nil => rfl
  | cons e es ih =>
    rw [List.map_cons, lookup, ih, List.lookup_cons]
    by_cases h : e.1 = key
    · simp [keyText?, untag, h]
    · have hne : (key == e.1) = false := beq_eq_false_iff_ne.2 (Ne.symm h)
      simp [keyText?, untag, h, hne]

/-- The field of a mapping with text keys is the first with its key. -/
theorem field?_ofPairs (es : List (String × Datum)) (key : String) :
    (ofPairs es).field? key = es.lookup key :=
  lookup_map_text key es

/-- Texts that were written are read as scalars. -/
theorem mapM_scalarText?_text (ss : List String) : (ss.map text).mapM scalarText? = some ss := by
  induction ss with
  | nil => rfl
  | cons s ss ih =>
    rw [List.map_cons, List.mapM_cons, ih]
    rfl

end Datum

/-- The sheet with every value mapped, if each of them can be. -/
def SceneSheet.mapM? {α β : Type} (f : α → Option β) (s : SceneSheet α) :
    Option (SceneSheet β) := do
  some ⟨← f s.camera, ← f s.stage, ← f s.year, ← f s.date, ← f s.time⟩

theorem SceneSheet.get_of_mapM? {α β : Type} {f : α → Option β} {s : SceneSheet α}
    {t : SceneSheet β} (h : s.mapM? f = some t) (g : Facet) : f (s.get g) = some (t.get g) := by
  simp only [mapM?, Option.bind_eq_bind, Option.bind_eq_some_iff] at h
  obtain ⟨camera, hcamera, stage, hstage, year, hyear, date, hdate, time, htime, hsheet⟩ := h
  cases hsheet
  cases g <;> assumption

/-! ### Facets -/

namespace SceneValue

/-- What a facet is read back as after it was written. -/
def readBack? : SceneValue → Option SceneValue
  | empty => some (text "Empty")
  | text _ => none
  | same => some (text "Same")
  | next .day => some (text "NextDay")
  | next .week => some (text "NextWeek")
  | next .month => some (text "NextMonth")

theorem ofDatum?_toDatum (v : SceneValue) : ofDatum? v.toDatum = v.readBack? := by
  rcases v with - | s | - | (- | - | -) <;> rfl

theorem hasTag_toDatum (v : SceneValue) : v.toDatum.hasTag = false := by
  rcases v with - | s | - | (- | - | -) <;> rfl

/-- No facet is read back as itself. -/
theorem readBack?_ne_some_self (v : SceneValue) : v.readBack? ≠ some v := by
  rcases v with - | s | - | (- | - | -) <;> simp [readBack?]

end SceneValue

/-! ### Plots and fields -/

/-- A plot is read back. -/
theorem Plot.ofDatum?_toDatum (p : Plot) : Plot.ofDatum? p.toDatum = some p := rfl

namespace StoryFields

/-- What is written of an element file, by key. -/
def written (f : StoryFields) : List (String × Datum) :=
  [("title", .text f.title), ("outline", .text f.outline), ("plot", f.plot.toDatum),
   ("camera", f.scene.camera.toDatum), ("stage", f.scene.stage.toDatum),
   ("year", f.scene.year.toDatum), ("date", f.scene.date.toDatum),
   ("time", f.scene.time.toDatum), ("markdown", .ofTexts f.body)]

/-- No facet is written with a tag, so every entry is accepted. -/
theorem all_isReadableEntry_written (f : StoryFields) :
    (f.written.map fun e ↦ (Datum.text e.1, e.2)).all isReadableEntry = true := by
  simp [written, isReadableEntry, Datum.keyText?, Datum.untag, ownKeys,
    SceneValue.hasTag_toDatum]

/-- Of the fields of an element file, the facets of the scene are those that were read back. -/
theorem ofDatum?_toDatum (f : StoryFields) :
    ofDatum? f.toDatum =
      (f.scene.mapM? SceneValue.readBack?).map fun scene ↦ { f with scene := scene } := by
  have honce : Datum.namesOnce (ownKeys ++ facetKeys)
      (f.written.map fun e ↦ (.text e.1, e.2)) = true := rfl
  have hbody : bodyOfDatum? (.ofTexts f.body) = some f.body := Datum.mapM_scalarText?_text f.body
  show ofEntries? (f.written.map fun e ↦ (.text e.1, e.2)) = _
  rw [ofEntries?, all_isReadableEntry_written, honce]
  simp only [Datum.scalarAt?, Datum.lookup_map_text, written, List.lookup_cons, BEq.rfl,
    String.reduceBEq, Bool.and_self, ↓reduceIte, Option.getD_some, Datum.scalarText?, hbody,
    SceneValue.ofDatum?_toDatum, Plot.ofDatum?_toDatum, SceneSheet.mapM?, Option.bind_eq_bind,
    Option.bind_some, Option.map_bind, Option.map_some, Function.comp_def]

end StoryFields

namespace StoryRecord

/-- Of a record, the facets of the scene are those that were read back. -/
theorem ofDatum?_toDatum (r : StoryRecord) :
    ofDatum? r.toDatum =
      (r.fields.scene.mapM? SceneValue.readBack?).map fun scene ↦
        { r with fields := { r.fields with scene := scene } } := by
  have hfield (key : String) : r.toDatum.field? key = _ := Datum.field?_ofPairs _ key
  have helement : (Element.all.find? fun e ↦ e.name = r.element.name) = some r.element := by
    cases r.element <;> rfl
  rw [ofDatum?, hfield, hfield, hfield]
  cases hscene : r.fields.scene.mapM? SceneValue.readBack? <;>
    simp [List.lookup_cons, Datum.text?, helement, StoryFields.ofDatum?_toDatum, hscene]

/-- **A written record is read back but for the facets of its scene**, and so never as itself. -/
theorem ofDatum?_toDatum_eq_map (r : StoryRecord) :
    ofDatum? r.toDatum =
        ((r.fields.scene.mapM? SceneValue.readBack?).map fun scene ↦
          { r with fields := { r.fields with scene := scene } }) ∧
      ofDatum? r.toDatum ≠ some r := by
  refine ⟨r.ofDatum?_toDatum, fun hself ↦ ?_⟩
  rw [ofDatum?_toDatum] at hself
  obtain ⟨scene, hscene, hr⟩ := Option.map_eq_some_iff.1 hself
  obtain rfl : scene = r.fields.scene := congrArg (fun r ↦ r.fields.scene) hr
  exact SceneValue.readBack?_ne_some_self _ (SceneSheet.get_of_mapM? hscene .camera)

/-- A scene of which nothing is written comes back with the word `Empty` for every facet. -/
theorem ofDatum?_toDatum_ne_self :
    let r : StoryRecord := ⟨.scene, "s1", .empty⟩
    ofDatum? r.toDatum =
        some ⟨.scene, "s1", { StoryFields.empty with scene := .replicate (.text "Empty") }⟩ ∧
      ofDatum? r.toDatum ≠ some r := by
  decide

end StoryRecord

end Manuscript
