import Mathlib.Data.List.Infix
import Manuscript.Tag.Substitute

/-!
# The segments of a text

Substitution reads a text as a row of segments: references to entries, and single characters that
stand for themselves. Put side by side as they are written, the segments are the text, and as they
are shown, they are the substituted text (`exists_reads`). `Reads` says which rows of segments a
reader meets, with the rest of the text present at every step, so that what is proved of a row by
induction may use that no reference stands where a character was read.

What a reader decides at one place is said once, by `reference?_eq_some` and
`reference?_eq_none_iff`: the entry found has a key that is not empty and stands there behind the
sigil, and none is found exactly if no such key does.
-/

namespace Manuscript.Tag

variable {sigil : List Char} {dict : List (List Char × List Char)}

/-! ### What is found at one place -/

/-- The entry has the longest key that is not empty and that the text begins with. -/
structure IsLongestMatch (dict : List (List Char × List Char)) (cs : List Char)
    (e : List Char × List Char) : Prop where
  mem : e ∈ dict
  ne_nil : e.1 ≠ []
  isPrefix : e.1 <+: cs
  longest : ∀ d ∈ dict, d.1 ≠ [] → d.1 <+: cs → d.1.length ≤ e.1.length

theorem longestMatch?_eq_none_iff {cs : List Char} :
    longestMatch? dict cs = none ↔ ∀ e ∈ dict, e.1 ≠ [] → ¬ e.1 <+: cs := by
  induction dict with
  | nil => simp [longestMatch?]
  | cons d ds ih =>
    simp only [longestMatch?, List.isPrefixOf_iff_prefix]
    rw [List.forall_mem_cons, ← ih]
    by_cases hd : d.1 ≠ [] ∧ d.1 <+: cs
    · rw [if_pos hd]
      cases longestMatch? ds cs with
      | none => simp [hd.1, hd.2]
      | some b => by_cases hb : b.1.length < d.1.length <;> simp [hb]
    · rw [if_neg hd]
      exact ⟨fun h ↦ ⟨fun hne hpre ↦ hd ⟨hne, hpre⟩, h⟩, fun h ↦ h.2⟩

theorem isLongestMatch_of_longestMatch? {cs : List Char} {e : List Char × List Char}
    (h : longestMatch? dict cs = some e) : IsLongestMatch dict cs e := by
  induction dict generalizing e with
  | nil => cases h
  | cons d ds ih =>
    simp only [longestMatch?, List.isPrefixOf_iff_prefix] at h
    -- an entry that is at least as long as the new one stays the longest
    have hkeep : ∀ {b}, longestMatch? ds cs = some b →
        (d.1 ≠ [] → d.1 <+: cs → d.1.length ≤ b.1.length) → IsLongestMatch (d :: ds) cs b := by
      intro b hb hle
      obtain ⟨hmem, hne, hpre, hlongest⟩ := ih hb
      exact ⟨List.mem_cons_of_mem d hmem, hne, hpre, List.forall_mem_cons.2 ⟨hle, hlongest⟩⟩
    by_cases hd : d.1 ≠ [] ∧ d.1 <+: cs
    · rw [if_pos hd] at h
      cases hbest : longestMatch? ds cs with
      | none =>
        rw [hbest] at h
        obtain rfl := Option.some.inj h
        refine ⟨List.mem_cons_self, hd.1, hd.2, List.forall_mem_cons.2 ⟨fun _ _ ↦ le_rfl, ?_⟩⟩
        intro f hf hne hpre
        exact absurd hpre (longestMatch?_eq_none_iff.1 hbest f hf hne)
      | some b =>
        rw [hbest] at h
        have hlongest := (ih hbest).longest
        by_cases hb : b.1.length < d.1.length
        · obtain rfl := Option.some.inj ((if_pos hb).symm.trans h)
          refine ⟨List.mem_cons_self, hd.1, hd.2, List.forall_mem_cons.2 ⟨fun _ _ ↦ le_rfl, ?_⟩⟩
          exact fun f hf hne hpre ↦ (hlongest f hf hne hpre).trans hb.le
        · obtain rfl := Option.some.inj ((if_neg hb).symm.trans h)
          exact hkeep hbest fun _ _ ↦ not_lt.1 hb
    · rw [if_neg hd] at h
      exact hkeep h fun hne hpre ↦ absurd ⟨hne, hpre⟩ hd

/-- A reference that is found stands there: the text goes on behind it. -/
theorem reference?_eq_some {cs : List Char} {e : List Char × List Char}
    (h : reference? sigil dict cs = some e) :
    ∃ rest, cs = sigil ++ (e.1 ++ rest) ∧ IsLongestMatch dict (e.1 ++ rest) e := by
  obtain ⟨tail, htail, hmatch⟩ := Option.bind_eq_some_iff.1 h
  obtain rfl := List.isPrefixOf?_eq_some_iff_append_eq.1 htail
  have hlongest := isLongestMatch_of_longestMatch? hmatch
  obtain ⟨rest, rfl⟩ := hlongest.isPrefix
  exact ⟨rest, rfl, hlongest⟩

/-- No reference is found exactly if no sigil with a key behind it stands there. -/
theorem reference?_eq_none_iff {cs : List Char} :
    reference? sigil dict cs = none ↔ ∀ e ∈ dict, e.1 ≠ [] → ¬ sigil ++ e.1 <+: cs := by
  rw [reference?, Option.bind_eq_none_iff]
  constructor
  · rintro h e he hne ⟨rest, rfl⟩
    have htail : sigil.isPrefixOf? (sigil ++ e.1 ++ rest) = some (e.1 ++ rest) :=
      List.isPrefixOf?_eq_some_iff_append_eq.2 (List.append_assoc ..).symm
    exact longestMatch?_eq_none_iff.1 (h _ htail) e he hne (List.prefix_append _ _)
  · intro h tail htail
    obtain rfl := List.isPrefixOf?_eq_some_iff_append_eq.1 htail
    refine longestMatch?_eq_none_iff.2 fun e he hne hpre ↦ h e he hne ?_
    exact (List.prefix_append_right_inj sigil).2 hpre

/-! ### Segments -/

/-- A piece of a text as substitution reads it. -/
inductive Segment where
  /-- A character that stands for itself. -/
  | char (c : Char)
  /-- A reference to an entry. -/
  | reference (e : List Char × List Char)
  deriving DecidableEq, Repr

namespace Segment

/-- A segment as it is written. -/
def source (sigil : List Char) : Segment → List Char
  | char c => [c]
  | reference e => sigil ++ e.1

/-- A segment as it is shown. -/
def shown : Segment → List Char
  | char c => [c]
  | reference e => e.2

end Segment

/-- The text of a row of segments as it is written. -/
def sourceOf (sigil : List Char) (ss : List Segment) : List Char :=
  ss.flatMap (Segment.source sigil)

/-- The text of a row of segments as it is shown. -/
def shownOf (ss : List Segment) : List Char :=
  ss.flatMap Segment.shown

@[simp]
theorem sourceOf_char (c : Char) (ss : List Segment) :
    sourceOf sigil (.char c :: ss) = c :: sourceOf sigil ss := rfl

@[simp]
theorem sourceOf_reference (e : List Char × List Char) (ss : List Segment) :
    sourceOf sigil (.reference e :: ss) = sigil ++ (e.1 ++ sourceOf sigil ss) :=
  List.append_assoc ..

@[simp]
theorem shownOf_char (c : Char) (ss : List Segment) :
    shownOf (.char c :: ss) = c :: shownOf ss := rfl

@[simp]
theorem shownOf_reference (e : List Char × List Char) (ss : List Segment) :
    shownOf (.reference e :: ss) = e.2 ++ shownOf ss := rfl

/-- A row of segments that a reader meets: a reference is the one found where it stands, and a
character is read only where none is. -/
inductive Reads (sigil : List Char) (dict : List (List Char × List Char)) :
    List Segment → Prop
  | nil : Reads sigil dict []
  | char {c : Char} {ss : List Segment}
      (h : reference? sigil dict (c :: sourceOf sigil ss) = none) (hss : Reads sigil dict ss) :
      Reads sigil dict (.char c :: ss)
  | reference {e : List Char × List Char} {ss : List Segment}
      (h : reference? sigil dict (sigil ++ (e.1 ++ sourceOf sigil ss)) = some e)
      (hss : Reads sigil dict ss) : Reads sigil dict (.reference e :: ss)

/-- The reference that is found at the start of a text is replaced by its value. -/
theorem substituteFrom_reference {e : List Char × List Char} {rest : List Char}
    (h : reference? sigil dict (sigil ++ (e.1 ++ rest)) = some e) (hne : e.1 ≠ []) :
    substituteFrom sigil dict 0 (sigil ++ (e.1 ++ rest)) =
      e.2 ++ substituteFrom sigil dict 0 rest := by
  obtain ⟨c, cs, hcs⟩ : ∃ c cs, sigil ++ e.1 = c :: cs :=
    List.exists_cons_of_ne_nil (List.append_ne_nil_of_right_ne_nil sigil hne)
  have hlength : sigil.length + e.1.length - 1 = cs.length := by
    have := congrArg List.length hcs
    rw [List.length_append, List.length_cons] at this
    omega
  rw [← List.append_assoc, hcs, List.cons_append] at h ⊢
  rw [substituteFrom, h]
  show e.2 ++ substituteFrom sigil dict (sigil.length + e.1.length - 1) (cs ++ rest) = _
  rw [hlength, substituteFrom_skip, List.drop_left]

/-- **Every text is read as a row of segments**, and what these show is the substituted text. -/
theorem exists_reads (sigil : List Char) (dict : List (List Char × List Char))
    (text : List Char) :
    ∃ ss, Reads sigil dict ss ∧ sourceOf sigil ss = text ∧
      shownOf ss = substituteFrom sigil dict 0 text := by
  induction hn : text.length using Nat.strong_induction_on generalizing text with
  | _ n ih =>
    cases hfound : reference? sigil dict text with
    | some e =>
      obtain ⟨rest, rfl, hlongest⟩ := reference?_eq_some hfound
      have hlt : rest.length < n := by
        have := List.length_pos_of_ne_nil hlongest.ne_nil
        simp only [List.length_append] at hn
        omega
      obtain ⟨ss, hreads, hsource, hshown⟩ := ih _ hlt rest rfl
      refine ⟨.reference e :: ss, .reference (hsource.symm ▸ hfound) hreads, ?_, ?_⟩
      · rw [sourceOf_reference, hsource]
      · rw [shownOf_reference, hshown, substituteFrom_reference hfound hlongest.ne_nil]
    | none =>
      cases text with
      | nil => exact ⟨[], .nil, rfl, rfl⟩
      | cons c cs =>
        obtain ⟨ss, hreads, hsource, hshown⟩ :=
          ih _ (hn ▸ Nat.lt_succ_self cs.length) cs rfl
        refine ⟨.char c :: ss, .char (hsource.symm ▸ hfound) hreads, ?_, ?_⟩
        · rw [sourceOf_char, hsource]
        · rw [shownOf_char, hshown, substituteFrom_cons_of_none hfound]

end Manuscript.Tag
