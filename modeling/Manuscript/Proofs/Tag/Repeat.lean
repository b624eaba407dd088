import Manuscript.Proofs.Tag.Segments

/-!
# Substituting twice

What was put in for a reference is not read again, so substituting a second time may change a text
once more: a sigil that began no reference stands in the substituted text as it stood before, and
what follows it may have become a key. Where no value contains the sigil, a text is left as it is
exactly if it holds no reference (`substituteFrom_eq_self_iff`), so substituting twice is
substituting once exactly where the substituted text holds none.

A dictionary of which this is true for every text is one whose values stand apart from the text
around them (`referenceFree_shownOf`). Names in a script of their own, under keys of ASCII letters,
are of this kind.
-/

namespace Manuscript.Tag

variable {sigil : List Char} {dict : List (List Char × List Char)}

/-! ### Texts without references -/

/-- Nowhere in the text does a key that is not empty stand behind a sigil. -/
def ReferenceFree (sigil : List Char) (dict : List (List Char × List Char))
    (text : List Char) : Prop :=
  ∀ e ∈ dict, e.1 ≠ [] → ¬ sigil ++ e.1 <:+: text

instance (sigil : List Char) (dict : List (List Char × List Char)) (text : List Char) :
    Decidable (ReferenceFree sigil dict text) :=
  inferInstanceAs (Decidable (∀ e ∈ dict, _))

theorem referenceFree_nil : ReferenceFree sigil dict [] := fun _ _ hne hinfix ↦
  hne (List.append_eq_nil_iff.1 (List.infix_nil.1 hinfix)).2

theorem referenceFree_cons_iff {c : Char} {cs : List Char} :
    ReferenceFree sigil dict (c :: cs) ↔
      reference? sigil dict (c :: cs) = none ∧ ReferenceFree sigil dict cs := by
  rw [reference?_eq_none_iff]
  simp only [ReferenceFree, List.infix_cons_iff, not_or]
  exact ⟨fun h ↦ ⟨fun e he hne ↦ (h e he hne).1, fun e he hne ↦ (h e he hne).2⟩,
    fun h e he hne ↦ ⟨h.1 e he hne, h.2 e he hne⟩⟩

/-- A text without references is left as it is. -/
theorem substituteFrom_of_referenceFree {text : List Char} (h : ReferenceFree sigil dict text) :
    substituteFrom sigil dict 0 text = text := by
  induction text with
  | nil => rfl
  | cons c cs ih =>
    obtain ⟨hnone, hcs⟩ := referenceFree_cons_iff.1 h
    rw [substituteFrom_cons_of_none hnone, ih hcs]

/-- Segments that are shown as they are written are characters, where no value contains the
sigil. They cannot even be shown as what is written behind some other text: each reference drops
its sigil, which nothing put in for it can make up for, and so what is shown lags behind what is
written up to the end. -/
theorem eq_nil_and_referenceFree_of_shownOf_eq (hvalues : ∀ e ∈ dict, ¬ sigil <:+: e.2)
    {ss : List Segment} (hss : Reads sigil dict ss) {w : List Char}
    (h : shownOf ss = w ++ sourceOf sigil ss) :
    w = [] ∧ ReferenceFree sigil dict (sourceOf sigil ss) := by
  induction hss generalizing w with
  | nil => exact ⟨(List.append_eq_nil_iff.1 h.symm).1, referenceFree_nil⟩
  | @char c ss hnone _ ih =>
    cases w with
    | nil =>
      obtain ⟨-, hfree⟩ := ih (w := []) (List.cons.inj h).2
      exact ⟨rfl, referenceFree_cons_iff.2 ⟨hnone, hfree⟩⟩
    | cons b w =>
      -- what lags behind moves on by one character and does not get shorter
      have hlag : shownOf ss = (w ++ [c]) ++ sourceOf sigil ss := by
        rw [List.append_assoc]
        exact (List.cons.inj h).2
      exact absurd (ih hlag).1 (List.concat_ne_nil c w)
  | @reference e ss hfound _ ih =>
    obtain ⟨_, -, hlongest⟩ := reference?_eq_some hfound
    rw [shownOf_reference, sourceOf_reference, ← List.append_assoc] at h
    rcases List.append_eq_append_iff.1 h with ⟨v, hv, hrest⟩ | ⟨v, hv, -⟩
    · have hlag : shownOf ss = (v ++ e.1) ++ sourceOf sigil ss := by
        rw [hrest, List.append_assoc]
      exact absurd (ih hlag).1 (List.append_ne_nil_of_right_ne_nil v hlongest.ne_nil)
    · exact absurd ⟨w, v, hv.symm⟩ (hvalues e hlongest.mem)

/-- **A text is left as it is exactly if it holds no reference**, where no value contains the
sigil. -/
theorem substituteFrom_eq_self_iff (hvalues : ∀ e ∈ dict, ¬ sigil <:+: e.2) {text : List Char} :
    substituteFrom sigil dict 0 text = text ↔ ReferenceFree sigil dict text := by
  refine ⟨fun h ↦ ?_, substituteFrom_of_referenceFree⟩
  obtain ⟨ss, hss, rfl, hshown⟩ := exists_reads sigil dict text
  exact (eq_nil_and_referenceFree_of_shownOf_eq hvalues hss (w := []) (hshown.trans h)).2

/-! ### Values that stand apart -/

/-- A value that makes no sigil and no key together with the text around it: its first character
occurs in neither, and its last character not in the sigil. -/
structure StandsApart (sigil : List Char) (dict : List (List Char × List Char))
    (value : List Char) : Prop where
  head : ∃ c ∈ value.head?, ∀ d ∈ dict, c ∉ sigil ++ d.1
  last : ∀ c ∈ value.getLast?, c ∉ sigil

/-- What is shown begins with a text only if it is written there, where the text holds the first
character of no value. -/
theorem prefix_sourceOf_of_prefix_shownOf {ss : List Segment} (hss : Reads sigil dict ss)
    {p : List Char} (hp : ∀ e ∈ dict, ∃ c ∈ e.2.head?, c ∉ p) (h : p <+: shownOf ss) :
    p <+: sourceOf sigil ss := by
  induction hss generalizing p with
  | nil => exact h
  | @char c ss _ _ ih =>
    rcases List.prefix_cons_iff.1 h with rfl | ⟨q, rfl, hq⟩
    · exact List.nil_prefix
    · refine List.prefix_cons_iff.2 (.inr ⟨q, rfl, ih (fun e he ↦ ?_) hq⟩)
      obtain ⟨b, hb, hbp⟩ := hp e he
      exact ⟨b, hb, fun hbq ↦ hbp (List.mem_cons_of_mem c hbq)⟩
  | @reference e ss hfound _ ih =>
    obtain ⟨_, -, hlongest⟩ := reference?_eq_some hfound
    obtain ⟨b, hb, hbp⟩ := hp e hlongest.mem
    obtain ⟨v, hv⟩ := List.head?_eq_some_iff.1 hb
    rw [shownOf_reference, hv] at h
    rcases List.prefix_cons_iff.1 h with rfl | ⟨q, rfl, -⟩
    · exact List.nil_prefix
    · exact absurd List.mem_cons_self hbp

/-- **No reference comes into being** among values that stand apart. -/
theorem referenceFree_shownOf (hvalues : ∀ e ∈ dict, ¬ sigil <:+: e.2)
    (hapart : ∀ e ∈ dict, StandsApart sigil dict e.2) {ss : List Segment}
    (hss : Reads sigil dict ss) : ReferenceFree sigil dict (shownOf ss) := by
  induction hss with
  | nil => exact referenceFree_nil
  | @char c ss hnone hss ih =>
    refine referenceFree_cons_iff.2 ⟨reference?_eq_none_iff.2 fun d hd hne hpre ↦ ?_, ih⟩
    -- a reference that is shown here was written here
    have hsource := prefix_sourceOf_of_prefix_shownOf (.char hnone hss) (fun e he ↦ by
      obtain ⟨b, hb, hbd⟩ := (hapart e he).head
      exact ⟨b, hb, hbd d hd⟩) hpre
    exact reference?_eq_none_iff.1 hnone d hd hne hsource
  | @reference e ss hfound _ ih =>
    obtain ⟨_, -, hlongest⟩ := reference?_eq_some hfound
    intro d hd hne hinfix
    rw [shownOf_reference] at hinfix
    rcases List.infix_append_iff.1 hinfix with hin | hin | ⟨l, r, hlr, hl, hr⟩
    · exact hvalues e hlongest.mem ((List.prefix_append sigil d.1).isInfix.trans hin)
    · exact ih d hd hne hin
    · -- the reference would begin at the end of the value and go on behind it
      rcases List.append_eq_append_iff.1 hlr with ⟨v, rfl, -⟩ | ⟨v, rfl, -⟩
      · exact hvalues e hlongest.mem ((List.prefix_append sigil v).isInfix.trans hl.isInfix)
      · rcases List.eq_nil_or_concat' l with rfl | ⟨k, b, rfl⟩
        · rw [List.nil_append] at hlr
          exact ih d hd hne (hlr ▸ hr.isInfix)
        · obtain ⟨u, hu⟩ := hl
          have hlast : e.2.getLast? = some b := by
            rw [← hu, ← List.append_assoc, List.getLast?_concat]
          exact (hapart e hlongest.mem).last b hlast (by simp)

/-! ### Substituting twice -/

/-- **Substituting twice is substituting once exactly where the substituted text holds no
reference**, if no value contains the sigil; and so it is for every text, if the values stand
apart besides. -/
theorem substitute_substitute_eq_iff {sigil : String} {table : Table String}
    (hvalues : ∀ e ∈ dictionary table, ¬ sigil.toList <:+: e.2) :
    (∀ text, substitute sigil table (substitute sigil table text) = substitute sigil table text ↔
      ReferenceFree sigil.toList (dictionary table) (substitute sigil table text).toList) ∧
    ((∀ e ∈ dictionary table, StandsApart sigil.toList (dictionary table) e.2) →
      ∀ text, substitute sigil table (substitute sigil table text) =
        substitute sigil table text) := by
  have hiff : ∀ text, substitute sigil table text = text ↔
      ReferenceFree sigil.toList (dictionary table) text.toList := fun text ↦ by
    rw [← substituteFrom_eq_self_iff hvalues, substitute, ← String.toList_inj,
      String.toList_ofList]
  refine ⟨fun text ↦ hiff _, fun hapart text ↦ (hiff _).2 ?_⟩
  obtain ⟨ss, hss, -, hshown⟩ := exists_reads sigil.toList (dictionary table) text.toList
  rw [substitute, String.toList_ofList, ← hshown]
  exact referenceFree_shownOf hvalues hapart hss

/-- Names in a script of their own, and a text with a sigil that begins no reference. -/
theorem substitute_substitute_eq_iff_names :
    let table : Table String := .ofList [("taro", "太郎"), ("full_taro", "山田太郎")]
    (∀ e ∈ dictionary table, ¬ "$".toList <:+: e.2) ∧
      (∀ e ∈ dictionary table, StandsApart "$".toList (dictionary table) e.2) ∧
      substitute "$" table (substitute "$" table "$$full_taro at $unknown") =
        substitute "$" table "$$full_taro at $unknown" := by
  intro table
  have hvalues : ∀ e ∈ dictionary table, ¬ "$".toList <:+: e.2 := by decide
  have hlast {value : List Char} (h : value.getLast? = some '郎') :
      ∀ c ∈ value.getLast?, c ∉ "$".toList := by
    rintro c hc
    obtain rfl := Option.some.inj (h.symm.trans hc)
    decide
  have hapart : ∀ e ∈ dictionary table, StandsApart "$".toList (dictionary table) e.2 := by
    have hdict : dictionary table =
        [("full_taro".toList, "山田太郎".toList), ("taro".toList, "太郎".toList)] := by decide
    intro e he
    rw [hdict] at he ⊢
    rcases List.mem_pair.1 he with rfl | rfl
    · exact ⟨⟨'山', rfl, by decide⟩, hlast (by decide)⟩
    · exact ⟨⟨'太', rfl, by decide⟩, hlast (by decide)⟩
  exact ⟨hvalues, hapart, (substitute_substitute_eq_iff hvalues).2 hapart _⟩

/-- A sigil before a reference is kept, and with what is put in for the reference and what follows
it there stands a reference again. No value contains the sigil, and the key is the only one. -/
theorem substitute_substitute_ne_behind_sigil :
    let table : Table String := .ofList [("ab", "a")]
    (∀ e ∈ dictionary table, ¬ "$".toList <:+: e.2) ∧
      substitute "$" table "$$abb" = "$ab" ∧
      substitute "$" table (substitute "$" table "$$abb") = "a" := by
  decide

end Manuscript.Tag
