import Manuscript.Proofs.Compile.Blocks
import Manuscript.Proofs.Compile.SceneDate

/-!
# Settled texts

A few words written for a facet of a scene or for a field of an act are not texts of their own but
stand for a text from elsewhere. A text is settled if it is not such a word, that is, if reading it
again gives it back. What a reader takes for a text is settled (`SceneValue.isSettled_of_ofText`,
`Slot.isSettled_of_ofText`), the text that nothing stands for is, and so are the texts of computed
dates, which have a digit. So the passes of compilation, whose states hold settled texts only, put
out settled texts only (`isSettled_of_mem_rawActions`, `isSettled_of_mem_resolveSame`). The words of
facets are not those of acts; the two are kept apart throughout.
-/

namespace Manuscript

/-! ### Facets -/

namespace SceneValue

/-- The words that are not read as texts of their own. -/
def words : List String :=
  ["", "-", "same", "同", "next-day", "翌日", "next-week", "翌週", "next-month", "翌月"]

/-- A text that is read as nothing or as itself. -/
def IsSettled (t : String) : Prop :=
  ofText t = .empty ∨ ofText t = .text t

theorem ofText_of_not_mem_words {t : String} (htrim : Text.trim t = t) (h : t ∉ words) :
    ofText t = .text t := by
  simp only [words, List.mem_cons, List.not_mem_nil, or_false, not_or] at h
  simp only [ofText, htrim, h, or_self, if_false]

/-- A text with a digit is none of the words. -/
theorem isSettled_of_isDigit {t : String} (htrim : Text.trim t = t) {c : Char}
    (hc : c ∈ t.toList) (hdigit : c.isDigit) : IsSettled t := by
  have hwords : words.all fun w ↦ !w.toList.any Char.isDigit := by decide
  refine .inr (ofText_of_not_mem_words htrim fun hmem ↦ ?_)
  have hnone := List.all_eq_true.1 hwords t hmem
  rw [List.any_eq_true.2 ⟨c, hc, hdigit⟩] at hnone
  cases hnone

theorem isSettled_empty : IsSettled "" := .inl (by decide)

theorem ofText_trim (raw : String) : ofText (Text.trim raw) = ofText raw := by
  rw [ofText, ofText, Text.trim_trim]

/-- The text that was read from a field is what is left of it without the blanks around it. -/
theorem eq_trim_of_ofText {raw s : String} (h : ofText raw = .text s) : s = Text.trim raw := by
  simp only [ofText] at h
  split_ifs at h
  cases h
  rfl

/-- **What was read as a text** is settled. -/
theorem isSettled_of_ofText {raw s : String} (h : ofText raw = .text s) : IsSettled s := by
  rw [IsSettled, eq_trim_of_ofText h, ofText_trim, h, ← eq_trim_of_ofText h]
  exact .inr rfl

/-- A resolved facet is settled if the facet of the scene before is. -/
theorem isSettled_resolve (raw : String) {previous : String} (h : IsSettled previous) :
    IsSettled ((ofText raw).resolve previous) := by
  cases hv : ofText raw with
  | empty => exact isSettled_empty
  | text s => exact isSettled_of_ofText hv
  | same => exact h
  | next step => exact h

end SceneValue

theorem Date.isSettled_yearText (d : Date) : SceneValue.IsSettled d.yearText := by
  obtain ⟨c, hc, hdigit⟩ := Text.exists_isDigit_mem_ofInt d.year
  exact SceneValue.isSettled_of_isDigit d.trim_yearText hc hdigit

theorem Date.isSettled_monthDay (d : Date) : SceneValue.IsSettled d.monthDay := by
  obtain ⟨c, cs, hcs, hdigit⟩ := Text.exists_repr_eq_cons d.month
  refine SceneValue.isSettled_of_isDigit d.trim_monthDay ?_ hdigit
  rw [monthDay, String.toList_append, String.toList_append, hcs]
  exact List.mem_cons_self

/-- All facets of the scene are settled. -/
def SceneHead.IsSettled (head : SceneHead) : Prop :=
  ∀ f, SceneValue.IsSettled (head.get f)

theorem SceneHead.isSettled_blank : SceneHead.IsSettled .blank := fun f ↦ by
  cases f <;> exact SceneValue.isSettled_empty

theorem SceneHead.IsSettled.set {head : SceneHead} (h : head.IsSettled) (f : Facet) {t : String}
    (ht : SceneValue.IsSettled t) : SceneHead.IsSettled (SceneSheet.set head f t) := by
  intro g
  rcases eq_or_ne g f with rfl | hg
  · rw [SceneSheet.get_set_self]
    exact ht
  · rw [SceneSheet.get_set_of_ne _ _ hg]
    exact h g

/-- A date that follows the one before is settled, and so is its year. -/
theorem isSettled_stepDate {previous : SceneHead} (h : previous.IsSettled) (step : DateStep)
    {year : SceneValue} (hyear : SceneValue.IsSettled (year.resolve previous.year)) :
    SceneValue.IsSettled (stepDate previous step year).1 ∧
      SceneValue.IsSettled (stepDate previous step year).2 := by
  rw [stepDate]
  -- without a day before or after the step, the date stays the one of the scene before
  split
  · exact ⟨hyear, h .date⟩
  · split
    · exact ⟨hyear, h .date⟩
    · rename_i later _
      refine ⟨?_, later.isSettled_monthDay⟩
      split
      · exact later.isSettled_yearText
      · exact hyear

/-- **One scene**: from settled facets, the facets that were read resolve to settled ones. -/
theorem isSettled_resolveScene {previous : SceneHead} (h : previous.IsSettled)
    (raws : SceneSheet String) :
    (resolveScene previous (raws.map SceneValue.ofText)).IsSettled := by
  have hplain :
      SceneHead.IsSettled
        ((raws.map SceneValue.ofText).zipWith (fun v p ↦ v.resolve p) previous) := by
    intro f
    rw [SceneSheet.get_zipWith, SceneSheet.get_map]
    exact SceneValue.isSettled_resolve _ (h f)
  by_cases hnext : ∃ step, (raws.map SceneValue.ofText).date = .next step
  · obtain ⟨step, hnext⟩ := hnext
    obtain ⟨hyear, hdate⟩ := isSettled_stepDate h step (hplain .year)
    rw [resolveScene_of_next previous hnext]
    exact (hplain.set .year hyear).set .date hdate
  · rw [resolveScene_of_ne_next previous (not_exists.1 hnext)]
    exact hplain

/-! ### Fields of acts -/

namespace Slot

/-- A text that is read as itself. -/
def IsSettled (t : String) : Prop :=
  ofText t = .given t

theorem isSettled_empty : IsSettled "" := by
  rw [IsSettled]
  decide

theorem ofText_trim (raw : String) : ofText (Text.trim raw) = ofText raw := by
  rw [ofText, ofText, Text.trim_trim]

/-- The text that was read from a field is what is left of it without the blanks around it. -/
theorem eq_trim_of_ofText {raw s : String} (h : ofText raw = .given s) : s = Text.trim raw := by
  simp only [ofText] at h
  split_ifs at h
  cases h
  rfl

/-- **What was read as a text** is settled. -/
theorem isSettled_of_ofText (raw : String) {s : String} (h : ofText raw = .given s) : IsSettled s := by
  rw [IsSettled, eq_trim_of_ofText h, ofText_trim, h, ← eq_trim_of_ofText h]

/-- A resolved field is settled if the field of the act before is. -/
theorem isSettled_resolve {slot : Slot String} (hslot : ∀ s, slot = .given s → IsSettled s)
    {previous : String} (h : IsSettled previous) : IsSettled (slot.resolve previous) := by
  cases slot with
  | same => exact h
  | given s => exact hslot s rfl

end Slot

/-- The texts that are given for subject and outline are settled. -/
structure Draft.IsSettled (d : Draft) : Prop where
  subject : ∀ s, d.subject = .given s → Slot.IsSettled s
  outline : ∀ s, d.outline = .given s → Slot.IsSettled s

/-- Subject and outline are settled. -/
structure Act.IsSettled (a : Act) : Prop where
  subject : Slot.IsSettled a.subject
  outline : Slot.IsSettled a.outline

theorem Draft.isSettled_prose (text : String) : (Draft.prose text).IsSettled :=
  have h : ∀ s, Slot.given "" = Slot.given s → Slot.IsSettled s := by
    rintro s ⟨⟩
    exact Slot.isSettled_empty
  ⟨h, h⟩

theorem Draft.isSettled_ofBracket? {head tail : String} {d : Draft}
    (h : Draft.ofBracket? head tail = some d) : d.IsSettled := by
  simp only [ofBracket?, Option.map_eq_some_iff] at h
  obtain ⟨verb, -, rfl⟩ := h
  have hcell (n : ℕ) : ∀ s, Slot.ofText ((Text.fields ':' head).getD n "") = .given s →
      Slot.IsSettled s :=
    fun _ ↦ Slot.isSettled_of_ofText _
  constructor
  · simpa only using hcell 0
  · simpa only using hcell 2

/-- **One act**: after a settled act, or after none, a settled draft becomes a settled act. -/
theorem Draft.IsSettled.resolve? {d : Draft} (hd : d.IsSettled) {previous : Option Act}
    (hprevious : ∀ p ∈ previous, p.IsSettled) {a : Act} (h : d.resolve? previous = some a) :
    a.IsSettled := by
  have hfield : ∀ {slot : Slot String} (field : Act → String),
      (∀ s, slot = .given s → Slot.IsSettled s) → (∀ p : Act, p.IsSettled → Slot.IsSettled (field p)) →
      Slot.IsSettled (slot.resolve ((previous.map field).getD "")) := by
    intro slot field hslot hfield
    refine Slot.isSettled_resolve hslot ?_
    cases previous with
    | none => exact Slot.isSettled_empty
    | some p => exact hfield p (hprevious p rfl)
  have hsubject := hfield Act.subject hd.subject fun _ ↦ Act.IsSettled.subject
  have houtline := hfield Act.outline hd.outline fun _ ↦ Act.IsSettled.outline
  simp only [Draft.resolve?] at h
  split at h
  · cases h
    exact ⟨hsubject, houtline⟩
  · cases h
    exact ⟨hsubject, houtline⟩
  · cases h

/-! ### The passes -/

/-- The facets among the markers are settled. -/
def Marker.IsSettled : Marker → Prop
  | facet _ t => SceneValue.IsSettled t
  | _ => True

/-- What stands in the item is settled: its facet, or the fields of its act. -/
def Item.IsSettled {α : Type} (act : α → Prop) : Item α → Prop
  | .marker m => m.IsSettled
  | .act a => act a

theorem isSettled_of_parseLine? {line : String} {x : RawAction} (h : parseLine? line = some x) :
    x.IsSettled Draft.IsSettled := by
  rcases parseLine?_eq_some h with ⟨m, hm, rfl⟩ | ⟨_, _, d, hd, rfl⟩ | ⟨text, rfl⟩
  · -- no body line makes a facet
    cases m with
    | facet f t => cases hm
    | _ => trivial
  · exact Draft.isSettled_ofBracket? hd
  · exact Draft.isSettled_prose text

theorem isSettled_of_mem_sceneBlock {fields : StoryFields} {head : SceneHead}
    (h : head.IsSettled) : ∀ x ∈ sceneBlock fields head, x.IsSettled Draft.IsSettled := by
  intro x hx
  rw [sceneBlock, List.mem_append, List.mem_append] at hx
  rcases hx with (hx | hx) | hx
  · obtain ⟨m, hm, rfl⟩ := List.mem_map.1 hx
    rw [sceneOpening, List.mem_append, List.mem_cons] at hm
    rcases hm with (rfl | hm) | hm
    · trivial
    · obtain ⟨f, -, rfl⟩ := List.mem_map.1 hm
      exact h f
    · obtain rfl := List.mem_singleton.1 hm
      trivial
  · obtain ⟨line, -, hline⟩ := List.mem_filterMap.1 hx
    exact isSettled_of_parseLine? hline
  · obtain rfl := List.mem_singleton.1 hx
    trivial

/-- The facets of the story's scenes were read from texts. -/
def Story.IsRead (story : Story) : Prop :=
  ∀ r ∈ story, ∃ raws : SceneSheet String, r.fields.scene = raws.map SceneValue.ofText

theorem isSettled_of_mem_rawActions {story : Story} (h : story.IsRead) :
    ∀ x ∈ rawActions story, x.IsSettled Draft.IsSettled := by
  have hhead : ∀ head : SceneHead, head.IsSettled → ∀ r ∈ story,
      (resolveScene head r.fields.scene).IsSettled := by
    intro head hhead r hr
    obtain ⟨raws, hraws⟩ := h r hr
    rw [hraws]
    exact isSettled_resolveScene hhead raws
  rw [rawActions, rawActionsFrom_eq_run]
  refine Pass.forall_mem_run_of_invariant (I := SceneHead.IsSettled) (fun head hs r hr ↦ ?_)
    (fun head hs r hr x hx ↦ ?_) SceneHead.isSettled_blank
  · simp only [rawPass]
    split
    · exact hhead head hs r hr
    · exact hs
  · simp only [rawPass] at hx
    split at hx
    · exact isSettled_of_mem_sceneBlock (hhead head hs r hr) x hx
    · obtain rfl := List.mem_singleton.1 hx
      trivial

theorem isSettled_of_mem_resolveSame {raw : List RawAction}
    (h : ∀ x ∈ raw, x.IsSettled Draft.IsSettled) :
    ∀ y ∈ resolveSame raw, y.IsSettled Act.IsSettled := by
  rw [resolveSame, resolveSameFrom_eq_run]
  refine Pass.forall_mem_run_of_invariant (I := fun previous ↦ ∀ p ∈ previous, Act.IsSettled p)
    (fun previous hprevious x hx ↦ ?_) (fun previous hprevious x hx y hy ↦ ?_)
    (fun p hp ↦ by cases hp)
  · cases x with
    | marker m =>
      simp only [carryPass]
      split
      · exact fun p hp ↦ by cases hp
      · exact hprevious
    | act d =>
      intro p hp
      rcases Option.or_eq_some_iff.1 hp with hp | ⟨-, hp⟩
      · exact (h _ hx).resolve? hprevious hp
      · exact hprevious p hp
  · cases x with
    | marker m =>
      obtain rfl := List.mem_singleton.1 hy
      exact h _ hx
    | act d =>
      obtain ⟨a, ha, rfl⟩ := Option.map_eq_some_iff.1 (Option.mem_toList.1 hy)
      exact (h _ hx).resolve? hprevious ha

/-- **No word that stands for another text is left in a compiled story**: every facet in it is read
as nothing or as itself, and the subject and outline of every act are read as themselves. -/
theorem compileActions_settled {story : Story} (hne : story ≠ []) (hread : story.IsRead) :
    ∃ actions, compileActions story = .ok actions ∧
      (∀ f t, .marker (.facet f t) ∈ actions →
        SceneValue.ofText t = .empty ∨ SceneValue.ofText t = .text t) ∧
      ∀ a, .act a ∈ actions →
        Slot.ofText a.subject = .given a.subject ∧ Slot.ofText a.outline = .given a.outline := by
  have hsettled := isSettled_of_mem_resolveSame (isSettled_of_mem_rawActions hread)
  refine ⟨_, compileActions_of_ne_nil hne, fun f t hmem ↦ hsettled _ hmem, fun a hmem ↦ ?_⟩
  obtain ⟨hsubject, houtline⟩ := hsettled _ hmem
  exact ⟨hsubject, houtline⟩

/-- A scene of which only the facets and the body are written, the facets as texts. -/
def readScene (raws : SceneSheet String) (body : List String) : StoryRecord :=
  ⟨.scene, "", { StoryFields.empty with scene := raws.map SceneValue.ofText, body := body }⟩

/-- The words of a first scene stand for nothing, those of the second for the texts of the first. -/
theorem compileActions_settled_two_scenes :
    let first := readScene ⟨"same", "pier", "+2019", " 12/31 ", "next-day"⟩ ["[-:go: Same ]along"]
    let second := readScene ⟨"-", " 同 ", "", "翌日", "翌週"⟩ ["[T:be:fog]", "[-:same:同]still"]
    [first, second] ≠ [] ∧ Story.IsRead [first, second] ∧
      ∃ actions, compileActions [first, second] = .ok actions ∧
        (∀ f t, .marker (.facet f t) ∈ actions →
          SceneValue.ofText t = .empty ∨ SceneValue.ofText t = .text t) ∧
        ∀ a, .act a ∈ actions →
          Slot.ofText a.subject = .given a.subject ∧
            Slot.ofText a.outline = .given a.outline := by
  intro first second
  have hne : [first, second] ≠ [] := List.cons_ne_nil _ _
  have hread : Story.IsRead [first, second] := by
    intro r hr
    rcases List.mem_pair.1 hr with rfl | rfl
    · exact ⟨_, rfl⟩
    · exact ⟨_, rfl⟩
  exact ⟨hne, hread, compileActions_settled hne hread⟩

end Manuscript
