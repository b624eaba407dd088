import Manuscript.Proofs.Page.Comments
import Manuscript.Proofs.Page.Titles

/-!
# The groups of an outline

The outline of a story is the records of each kind, one kind after the other, and its page is one
section for each kind that occurs (`groups_of_project`).

Two functions have to agree for that. The records are sorted by their kinds, and the sorting is
stable, so that those of a kind keep their order (`filter_grouped`). The page puts a heading where
the kind changes, which is once for each kind only because the records are sorted
(`fragmentsFrom_flatMap`).
-/

namespace Manuscript

namespace Markdown

/-- Fragments that all end a line end a line together. -/
theorem endsLine_concat {fragments : List String}
    (h : ∀ f ∈ fragments, f.toList.getLast? = some '\n') :
    EndsLine (concat fragments).toList := by
  induction fragments with
  | nil => exact .inl rfl
  | cons f fragments ih =>
    obtain ⟨hf, hfragments⟩ := List.forall_mem_cons.1 h
    rw [concat, String.join_cons, String.toList_append]
    rcases eq_or_ne (String.join fragments).toList [] with hnil | hne
    · rw [hnil, List.append_nil]
      exact .inr hf
    · exact (endsLine_append_iff hne).2 ((ih hfragments).resolve_left hne)

/-- A page that begins with a heading has the text of its fragments, less the line feed in front of
the heading. -/
theorem page_heading_cons (e : Element) (title : String) {fragments : List String}
    (h : EndsLine (concat (heading e title :: fragments)).toList) :
    "\n" ++ page (heading e title :: fragments) = concat (heading e title :: fragments) := by
  obtain ⟨c, cs, hheading, hc⟩ :
      ∃ c cs, (heading e title).toList = '\n' :: c :: cs ∧ c ≠ '\n' := by
    cases e <;> simp [heading]
  have hconcat : (concat (heading e title :: fragments)).toList =
      '\n' :: c :: (cs ++ (concat fragments).toList) := by
    rw [concat, String.join_cons, String.toList_append, hheading]
    rfl
  have hdrop : (concat (heading e title :: fragments)).toList.dropWhile (· = '\n') =
      c :: (cs ++ (concat fragments).toList) := by
    rw [hconcat, List.dropWhile_cons_of_pos (by simp),
      List.dropWhile_cons_of_neg (by simpa using hc)]
  have hends := (endsLine_dropWhile_iff _).2 h
  rw [hdrop] at hends
  have hwhole : endLine (c :: (cs ++ (concat fragments).toList)) = _ := if_pos hends
  rw [← String.toList_inj, page, hdrop, hwhole, hconcat]
  simp

end Markdown

namespace OutlineRecord

theorem getLast?_line (o : OutlineRecord) : o.line.toList.getLast? = some '\n' := by
  rw [line, Markdown.bullet, String.toList_append]
  exact List.getLast?_append_of_ne_nil _ (by decide)

end OutlineRecord

namespace Outline

/-! ### Sorting by kind -/

section

variable (os : List OutlineRecord)

theorem depth_le_trans (a b c : OutlineRecord)
    (hab : decide (a.element.depth ≤ b.element.depth))
    (hbc : decide (b.element.depth ≤ c.element.depth)) :
    decide (a.element.depth ≤ c.element.depth) :=
  decide_eq_true (Nat.le_trans (of_decide_eq_true hab) (of_decide_eq_true hbc))

theorem depth_le_total (a b : OutlineRecord) :
    decide (a.element.depth ≤ b.element.depth) || decide (b.element.depth ≤ a.element.depth) := by
  simpa using Nat.le_total a.element.depth b.element.depth

theorem grouped_perm : (grouped os).Perm os :=
  List.mergeSort_perm os _

/-- The kinds do not go back. -/
theorem pairwise_grouped :
    (grouped os).Pairwise fun a b ↦ a.element.depth ≤ b.element.depth :=
  (List.pairwise_mergeSort depth_le_trans depth_le_total os).imp of_decide_eq_true

/-- The records of a kind keep their order. -/
theorem filter_grouped (e : Element) :
    (grouped os).filter (fun o ↦ o.element = e) = os.filter fun o ↦ o.element = e := by
  have hkind : (os.filter fun o ↦ o.element = e).Pairwise fun a b ↦
      decide (a.element.depth ≤ b.element.depth) := by
    refine List.pairwise_of_forall_mem_list fun a ha b hb ↦ ?_
    rw [of_decide_eq_true (List.mem_filter.1 ha).2, of_decide_eq_true (List.mem_filter.1 hb).2]
    exact decide_eq_true (Nat.le_refl _)
  -- records of one kind are sorted already, so a stable sorting leaves them in their order
  have hsub : (os.filter fun o ↦ o.element = e).Sublist (grouped os) :=
    List.sublist_mergeSort depth_le_trans depth_le_total hkind List.filter_sublist
  have hfilter := hsub.filter fun o ↦ o.element = e
  rw [List.filter_filter] at hfilter
  simp only [Bool.and_self] at hfilter
  have hlength := ((grouped_perm os).filter fun o ↦ o.element = e).length_eq
  exact (hfilter.eq_of_length hlength.symm).symm

/-- Records whose kinds do not go back are those of each kind, one kind after the other. -/
theorem flatMap_filter_of_pairwise {os : List OutlineRecord}
    (h : os.Pairwise fun a b ↦ a.element.depth ≤ b.element.depth) :
    (Element.all.flatMap fun e ↦ os.filter fun o ↦ o.element = e) = os := by
  induction os with
  | nil => rfl
  | cons o os ih =>
    obtain ⟨ho, hos⟩ := List.pairwise_cons.1 h
    have hbelow : ∀ e : Element, e.depth < o.element.depth →
        (os.filter fun x ↦ x.element = e) = [] := by
      intro e he
      refine List.filter_eq_nil_iff.2 fun x hx hkind ↦ ?_
      have hle := ho x hx
      rw [of_decide_eq_true hkind] at hle
      omega
    have hrest := ih hos
    cases hkind : o.element with
    | book => simpa [Element.all, hkind] using hrest
    | chapter =>
      have hbook := hbelow .book (by rw [hkind]; decide)
      simpa [Element.all, hkind, hbook] using hrest
    | episode =>
      have hbook := hbelow .book (by rw [hkind]; decide)
      have hchapter := hbelow .chapter (by rw [hkind]; decide)
      simpa [Element.all, hkind, hbook, hchapter] using hrest
    | scene =>
      have hbook := hbelow .book (by rw [hkind]; decide)
      have hchapter := hbelow .chapter (by rw [hkind]; decide)
      have hepisode := hbelow .episode (by rw [hkind]; decide)
      simpa [Element.all, hkind, hbook, hchapter, hepisode] using hrest

/-- The outline is the records of each kind, one kind after the other. -/
theorem grouped_eq_flatMap :
    grouped os = Element.all.flatMap fun e ↦ os.filter fun o ↦ o.element = e := by
  rw [← flatMap_filter_of_pairwise (pairwise_grouped os)]
  simp only [filter_grouped]

end

/-! ### Headings -/

/-- The section of a kind: its heading and a line for each of its records. A kind without records
has none. -/
def sectionOf (e : Element) (os : List OutlineRecord) : List String :=
  if os = [] then [] else Markdown.heading .chapter (groupLabel e) :: os.map OutlineRecord.line

theorem getLast?_of_mem_sectionOf {e : Element} {os : List OutlineRecord} {f : String}
    (h : f ∈ sectionOf e os) : f.toList.getLast? = some '\n' := by
  rw [sectionOf] at h
  split at h
  · cases h
  · rcases List.mem_cons.1 h with rfl | h
    · exact Markdown.getLast?_heading _ _
    · obtain ⟨o, -, rfl⟩ := List.mem_map.1 h
      exact o.getLast?_line

/-- Behind a record of the same kind there are just the lines. -/
theorem fragmentsFrom_append {e : Element} {os : List OutlineRecord}
    (h : ∀ o ∈ os, o.element = e) (rest : List OutlineRecord) :
    fragmentsFrom (some e) (os ++ rest) =
      os.map OutlineRecord.line ++ fragmentsFrom (some e) rest := by
  induction os with
  | nil => rfl
  | cons o os ih =>
    obtain ⟨ho, hos⟩ := List.forall_mem_cons.1 h
    rw [List.cons_append, fragmentsFrom, ho, if_pos rfl, ih hos]
    rfl

/-- **A heading stands where the kind changes**, so there is one section for each kind that has
records, if none of the kinds comes back. -/
theorem fragmentsFrom_flatMap {recordsOf : Element → List OutlineRecord}
    (h : ∀ e, ∀ o ∈ recordsOf e, o.element = e) {kinds : List Element} (hkinds : kinds.Nodup)
    {group : Option Element} (hgroup : ∀ e ∈ kinds, group ≠ some e) :
    fragmentsFrom group (kinds.flatMap recordsOf) =
      kinds.flatMap fun e ↦ sectionOf e (recordsOf e) := by
  induction kinds generalizing group with
  | nil => rfl
  | cons e kinds ih =>
    obtain ⟨he, hrest⟩ := List.nodup_cons.1 hkinds
    obtain ⟨hnew, hlater⟩ := List.forall_mem_cons.1 hgroup
    rw [List.flatMap_cons, List.flatMap_cons, sectionOf]
    cases hrecords : recordsOf e with
    | nil => rw [List.nil_append, if_pos rfl, ih hrest hlater, List.nil_append]
    | cons o os =>
      have helements := h e
      rw [hrecords, List.forall_mem_cons] at helements
      obtain ⟨ho, hos⟩ := helements
      have hbehind : ∀ x ∈ kinds, some e ≠ some x := fun x hx heq ↦
        he (Option.some.inj heq ▸ hx)
      rw [List.cons_append, fragmentsFrom, ho, if_neg hnew, fragmentsFrom_append hos,
        ih hrest hbehind, if_neg (List.cons_ne_nil o os)]
      rfl

/-- The page begins with the heading of its first record, of which the line feed is left out. -/
theorem append_render {records : List OutlineRecord} (hne : records ≠ [])
    (hends : Markdown.EndsLine (Markdown.concat (fragmentsFrom none records)).toList) :
    "\n" ++ render records = Markdown.concat (fragmentsFrom none records) := by
  obtain ⟨o, os, rfl⟩ := List.exists_cons_of_ne_nil hne
  rw [fragmentsFrom, if_neg (by simp), List.singleton_append] at hends
  rw [render, fragmentsFrom, if_neg (by simp), List.singleton_append]
  exact Markdown.page_heading_cons _ _ hends

/-! ### The outline of a story -/

/-- The record of an element with its title and outline as they are shown. -/
def entry (r : Resolver) (s : StoryRecord) : OutlineRecord :=
  ⟨s.element, r.text "" s.fields.title, r.text "" s.fields.outline⟩

theorem map_retag_grouped (r : Resolver) (story : Story) :
    (grouped (story.map OutlineRecord.ofStory)).map (OutlineRecord.retag r) =
      Element.all.flatMap fun e ↦ (story.ofKind e).map (entry r) := by
  rw [grouped_eq_flatMap, List.map_flatMap]
  simp only [List.filter_map, List.map_map]
  rfl

/-- **The outline groups the records by kind.** Every record has one entry, in which its title and
outline are resolved: those of books, then of chapters, episodes and scenes, those of a kind in
manuscript order. The page has, behind a line feed that is left out, one section for each kind that
occurs, which is the heading of the kind and the lines of its entries in this order. -/
theorem groups_of_project (r : Resolver) {story : Story} (h : story ≠ []) :
    let entriesOf := fun e : Element ↦ (story.ofKind e).map (entry r)
    let records := Element.all.flatMap entriesOf
    let sections := Element.all.flatMap fun e ↦ sectionOf e (entriesOf e)
    project r story = .ok records ∧ records.Perm (story.map (entry r)) ∧
      fragmentsFrom none records = sections ∧
      "\n" ++ render records = Markdown.concat sections := by
  intro entriesOf records sections
  have hrecords : (grouped (story.map OutlineRecord.ofStory)).map (OutlineRecord.retag r) =
      records := map_retag_grouped r story
  have hperm : records.Perm (story.map (entry r)) := by
    have hmoved := (grouped_perm (story.map OutlineRecord.ofStory)).map (OutlineRecord.retag r)
    rwa [hrecords, List.map_map] at hmoved
  have hne : records ≠ [] := fun hnil ↦ h (List.map_eq_nil_iff.1 (hnil ▸ hperm).nil_eq.symm)
  have hkind : ∀ e, ∀ o ∈ entriesOf e, o.element = e := by
    rintro e o ho
    obtain ⟨s, hs, rfl⟩ := List.mem_map.1 ho
    exact of_decide_eq_true (List.mem_filter.1 hs).2
  have hfragments : fragmentsFrom none records = sections :=
    fragmentsFrom_flatMap hkind (by decide) (by simp)
  have hends : Markdown.EndsLine (Markdown.concat sections).toList := by
    refine Markdown.endsLine_concat fun f hf ↦ ?_
    obtain ⟨e, -, hf⟩ := List.mem_flatMap.1 hf
    exact getLast?_of_mem_sectionOf hf
  refine ⟨?_, hperm, hfragments, ?_⟩
  · rw [project, if_neg (by simpa using h), hrecords, Format.nonEmpty_eq_ok _ hne]
  · rw [← hfragments] at hends ⊢
    exact append_render hne hends

/-- Scenes in front of and behind a book, and a chapter at the end. -/
theorem groups_of_project_scenes_around_book :
    let record := fun (e : Element) (title outline : String) ↦
      (⟨e, "", { StoryFields.empty with title := title, outline := outline }⟩ : StoryRecord)
    let story := [record .scene "Pier" "", record .book "Tale" "A tale.",
      record .scene "Inn" " Rain. ", record .chapter "Summer" ""]
    let records : List OutlineRecord := [⟨.book, "Tale", "A tale."⟩, ⟨.chapter, "Summer", ""⟩,
      ⟨.scene, "Pier", ""⟩, ⟨.scene, "Inn", " Rain. "⟩]
    let page := "\n## Book\n\n- **Tale**: A tale.\n\n## Chapters\n\n- **Summer**\n" ++
      "\n## Scenes\n\n- **Pier**\n- **Inn**: Rain.\n"
    story ≠ [] ∧ project .empty story = .ok records ∧ "\n" ++ render records = page := by
  intro record story records page
  have hne : story ≠ [] := List.cons_ne_nil _ _
  have hentries : (Element.all.flatMap fun e ↦ (Story.ofKind story e).map (entry .empty)) =
      records := by
    decide +kernel
  have hsections : Markdown.concat (Element.all.flatMap fun e ↦
      sectionOf e ((Story.ofKind story e).map (entry .empty))) = page := by
    decide +kernel
  obtain ⟨hrecords, -, -, hpage⟩ := groups_of_project .empty hne
  rw [hentries] at hrecords hpage
  exact ⟨hne, hrecords, hpage.trans hsections⟩

end Outline

end Manuscript
