import Mathlib.Data.List.TakeWhile
import Manuscript.Proofs.Page.Layout

/-!
# The layout, paragraph by paragraph

The layout reads the records one by one and remembers whether a paragraph is open and whether it has
held a unit. Here it is said without a memory. A paragraph is the run of body text and passive
records behind a paragraph start, up to the first record of another kind or the end of the text
(`paragraphOf`). The layout of a text is that of its paragraphs (`setParagraph`) and of the records
between them, each taken by itself (`setAlone`); of what closes a paragraph, only a line break is
used up (`behindBreak`).

The two agree because the memory is lost at the end of a paragraph, so that a paragraph and what
closes it can be laid out as a whole (`layoutFrom_inside_append`). Within the paragraph the memory
says one thing only, namely whether its first unit is still to come.
-/

namespace Manuscript

/-- Whether a record with this part goes on with an open paragraph. Every other record closes it. -/
def Flow.goesOn : Flow → Bool
  | body _ => true
  | passive => true
  | _ => false

theorem Flow.goesOn_iff {part : Flow} :
    part.goesOn ↔ part = .passive ∨ ∃ indentable, part = .body indentable := by
  cases part <;> simp [goesOn]

namespace Flowing

variable {α : Type} (φ : Flowing α)

/-! ### The definition without a state -/

/-- The paragraph behind a paragraph start. -/
def paragraphOf (rs : List α) : List α :=
  rs.takeWhile fun r ↦ (φ.flow r).goesOn

/-- What closes a paragraph and all that follows. -/
def fromCloser (rs : List α) : List α :=
  rs.dropWhile fun r ↦ (φ.flow r).goesOn

/-- A line break that closes a paragraph is used up. -/
def behindBreak : List α → List α
  | [] => []
  | r :: rs => if φ.flow r = .lineBreak then rs else r :: rs

/-- The indent before a unit, if it takes one. -/
def indentBefore (r : α) : List α :=
  if φ.flow r = .body true then [φ.indent] else []

/-- A paragraph as it is laid out. If it holds a unit, the indent of the first unit and a line break
behind the paragraph are put in; else nothing is. -/
def setParagraph : List α → List α
  | [] => []
  | r :: run =>
    if φ.flow r = .passive then r :: setParagraph run
    else φ.indentBefore r ++ r :: run ++ [φ.lineBreak]

/-- A record outside of paragraphs as it is laid out. -/
def setAlone (r : α) : List α :=
  match φ.flow r with
  | .title => [r]
  | .boundary => [r]
  | .passive => [r]
  | .body _ => φ.indentBefore r ++ [r, φ.lineBreak]
  | .lineBreak => [φ.lineBreak]
  | .paragraphStart => []
  | .paragraphEnd => []

theorem length_behindBreak_le (rs : List α) : (φ.behindBreak rs).length ≤ rs.length := by
  rcases rs with - | ⟨r, rs⟩
  · exact le_rfl
  · rw [behindBreak]
    split
    · exact Nat.le_succ _
    · exact le_rfl

theorem length_behindBreak_fromCloser_le (rs : List α) :
    (φ.behindBreak (φ.fromCloser rs)).length ≤ rs.length :=
  (φ.length_behindBreak_le _).trans (List.dropWhile_sublist _).length_le

/-- The laid out records, paragraph by paragraph. -/
def paragraphwise : List α → List α
  | [] => []
  | r :: rs =>
    if φ.flow r = .paragraphStart then
      φ.setParagraph (φ.paragraphOf rs) ++ paragraphwise (φ.behindBreak (φ.fromCloser rs))
    else φ.setAlone r ++ paragraphwise rs
termination_by rs => rs.length
decreasing_by
  · exact Nat.lt_succ_of_le (φ.length_behindBreak_fromCloser_le rs)
  · exact Nat.lt_succ_self _

/-! ### One paragraph -/

variable {φ}

theorem goesOn_of_mem_paragraphOf {rs : List α} : ∀ r ∈ φ.paragraphOf rs, (φ.flow r).goesOn :=
  fun _ hr ↦ List.mem_takeWhile_imp (p := fun r ↦ (φ.flow r).goesOn) hr

theorem goesOn_head?_fromCloser {rs : List α} :
    ∀ r ∈ (φ.fromCloser rs).head?, (φ.flow r).goesOn = false := by
  intro r hr
  have hhead := List.head?_dropWhile_not (fun r ↦ (φ.flow r).goesOn) rs
  rw [← fromCloser, Option.mem_def.1 hr] at hhead
  simpa using hhead

theorem paragraphOf_append_fromCloser (rs : List α) : φ.paragraphOf rs ++ φ.fromCloser rs = rs :=
  List.takeWhile_append_dropWhile

/-- Behind the first unit of a paragraph, the rest of it is passed through. -/
theorem layoutFrom_append_of_produced {run : List α} (h : ∀ r ∈ run, (φ.flow r).goesOn)
    (rest : List α) :
    φ.layoutFrom (.inside true) (run ++ rest) = run ++ φ.layoutFrom (.inside true) rest := by
  induction run with
  | nil => rfl
  | cons r run ih =>
    have hr : (φ.flow r).goesOn := h r List.mem_cons_self
    have hrun := ih fun q hq ↦ h q (List.mem_cons_of_mem r hq)
    have hstep : φ.put (.inside true) r (φ.flow r) = [r] ∧
        ParagraphState.next (.inside true) (φ.flow r) = .inside true := by
      rcases Flow.goesOn_iff.1 hr with hflow | ⟨indentable, hflow⟩
      · rw [hflow]
        exact ⟨rfl, rfl⟩
      · -- the indent is that of the first unit only
        have hindent : φ.indentFor indentable true = [] := by cases indentable <;> rfl
        rw [hflow, put, hindent]
        exact ⟨rfl, rfl⟩
    rw [List.cons_append, layoutFrom_cons, hstep.1, hstep.2, hrun]
    rfl

/-- What closes a paragraph is laid out as if the text began there, a line break apart. -/
theorem layoutFrom_of_closes {rest : List α} (h : ∀ r ∈ rest.head?, (φ.flow r).goesOn = false)
    (produced : Bool) :
    φ.layoutFrom (.inside produced) rest =
      φ.closing (.inside produced) ++ φ.layout (φ.behindBreak rest) := by
  rcases rest with - | ⟨r, rest⟩
  · exact (List.append_nil _).symm
  · have hr : (φ.flow r).goesOn = false := h r rfl
    rw [layoutFrom_cons, behindBreak]
    split
    · rename_i hflow
      rw [hflow]
      rfl
    · rename_i hbreak
      rw [layout, layoutFrom_cons]
      cases hflow : φ.flow r with
      | lineBreak => exact absurd hflow hbreak
      | body | passive =>
        rw [hflow] at hr
        cases hr
      | paragraphStart | paragraphEnd => rfl
      | title | boundary => exact List.append_assoc _ [r] _

/-- **A paragraph is laid out as a whole**, and what follows it as if the text began there. -/
theorem layoutFrom_inside_append {run rest : List α} (hrun : ∀ r ∈ run, (φ.flow r).goesOn)
    (hrest : ∀ r ∈ rest.head?, (φ.flow r).goesOn = false) :
    φ.layoutFrom (.inside false) (run ++ rest) =
      φ.setParagraph run ++ φ.layout (φ.behindBreak rest) := by
  induction run with
  | nil => exact layoutFrom_of_closes hrest false
  | cons r run ih =>
    have hr : (φ.flow r).goesOn := hrun r List.mem_cons_self
    have htail : ∀ q ∈ run, (φ.flow q).goesOn := fun q hq ↦ hrun q (List.mem_cons_of_mem r hq)
    rw [List.cons_append, layoutFrom_cons, setParagraph]
    rcases Flow.goesOn_iff.1 hr with hflow | ⟨indentable, hflow⟩
    · rw [hflow, if_pos rfl, ParagraphState.next, ih htail]
      rfl
    · -- the first unit: the rest is passed through, and the close breaks the line
      have hindent : φ.indentFor indentable false = φ.indentBefore r := by
        cases indentable <;> simp [indentFor, indentBefore, hflow]
      rw [hflow, if_neg (by simp), ParagraphState.next, layoutFrom_append_of_produced htail,
        layoutFrom_of_closes hrest, put, hindent]
      simp [closing]

/-! ### The whole text -/

/-- Outside of paragraphs a record that opens none is laid out by itself. -/
theorem layout_cons_of_ne_paragraphStart {r : α} (h : φ.flow r ≠ .paragraphStart) (rs : List α) :
    φ.layout (r :: rs) = φ.setAlone r ++ φ.layout rs := by
  have hput : φ.put .outside r (φ.flow r) = φ.setAlone r := by
    rw [setAlone]
    cases hflow : φ.flow r with
    | body indentable => cases indentable <;> simp [put, indentFor, indentBefore, hflow]
    | _ => rfl
  have hnext : ParagraphState.next .outside (φ.flow r) = .outside := by
    cases hflow : φ.flow r with
    | paragraphStart => exact absurd hflow h
    | _ => rfl
  rw [layout, layoutFrom_cons, hput, hnext]
  rfl

/-- A paragraph start is taken out, and the paragraph behind it laid out as a whole. -/
theorem layout_cons_of_paragraphStart {r : α} (h : φ.flow r = .paragraphStart) (rs : List α) :
    φ.layout (r :: rs) =
      φ.setParagraph (φ.paragraphOf rs) ++ φ.layout (φ.behindBreak (φ.fromCloser rs)) := by
  rw [layout, layoutFrom_cons, h, ParagraphState.next,
    ← layoutFrom_inside_append goesOn_of_mem_paragraphOf goesOn_head?_fromCloser,
    paragraphOf_append_fromCloser]
  rfl

variable (φ) in
/-- **The layout is that of its paragraphs** and of the records between them. -/
theorem layout_eq_paragraphwise (rs : List α) : φ.layout rs = φ.paragraphwise rs := by
  fun_induction paragraphwise φ rs with
  | case1 => rfl
  | case2 r rs hstart ih => rw [layout_cons_of_paragraphStart hstart, ih]
  | case3 r rs hstart ih => rw [layout_cons_of_ne_paragraphStart hstart, ih]

end Flowing

end Manuscript
