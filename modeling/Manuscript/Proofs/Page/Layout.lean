import Manuscript.Page.Layout
import Manuscript.Proofs.Pass

/-!
# The layout as a pass

The layout is a pass whose state is the paragraph, followed by the closing of the paragraph that is
left open at the end (`layoutFrom_eq_run`). Four facts about it carry the prose formats:

* after a title or the end of a scene no paragraph is open, and there the layout of two lists in a
  row is the two layouts in a row (`layoutFrom_append_of_outside`);
* the layout only puts in line breaks and indents and only takes out control records, so every
  other record is kept in its place (`Sees.filterMap_layoutFrom`);
* what is laid out as text ends its last line (`finishesLine_layoutFrom`). A unit in a paragraph
  does not end its own line, so the step says what the paragraph has begun;
* a map that forgets indents, and records that do not move the paragraph, commutes with the layout
  (`Forgets.filterMap_layoutFrom`). A record that is forgotten and closes a paragraph is harmless
  exactly where none is open, which is a property of the records together with the states in which
  they are met.
-/

namespace Manuscript

/-! ### One record -/

/-- The paragraph after a record that takes the given part. -/
def ParagraphState.next (s : ParagraphState) : Flow → ParagraphState
  | .title => .outside
  | .boundary => .outside
  | .paragraphStart => .inside false
  | .paragraphEnd => .outside
  | .lineBreak => .outside
  | .body _ =>
    match s with
    | .outside => .outside
    | .inside _ => .inside true
  | .passive => s

namespace Flow

/-- Whether the layout takes a record with this part out. -/
def isControl : Flow → Bool
  | paragraphStart => true
  | paragraphEnd => true
  | lineBreak => true
  | _ => false

/-- The part without its indent. -/
def flush : Flow → Flow
  | body _ => body false
  | f => f

end Flow

theorem ParagraphState.next_flush (s : ParagraphState) (part : Flow) :
    s.next part.flush = s.next part := by
  cases part <;> rfl

namespace Flowing

variable {α β : Type} (φ : Flowing α)

/-- What is laid out for one record that takes the given part. -/
def put (s : ParagraphState) (r : α) : Flow → List α
  | .title => φ.closing s ++ [r]
  | .boundary => φ.closing s ++ [r]
  | .paragraphStart => φ.closing s
  | .paragraphEnd => φ.closing s
  | .lineBreak =>
    match s with
    | .outside => [φ.lineBreak]
    | s => φ.closing s
  | .body indentable =>
    match s with
    | .outside => φ.indentFor indentable false ++ [r, φ.lineBreak]
    | .inside produced => φ.indentFor indentable produced ++ [r]
  | .passive => [r]

/-- The layout up to the end of the text. The state is the paragraph. -/
def layoutPass : Pass ParagraphState α α where
  next s r := s.next (φ.flow r)
  out s r := φ.put s r (φ.flow r)

theorem layoutPass_next (s : ParagraphState) (r : α) :
    φ.layoutPass.next s r = s.next (φ.flow r) := rfl

theorem layoutFrom_cons (s : ParagraphState) (r : α) (rs : List α) :
    φ.layoutFrom s (r :: rs) =
      φ.put s r (φ.flow r) ++ φ.layoutFrom (s.next (φ.flow r)) rs := by
  cases hflow : φ.flow r <;> cases s <;> simp [layoutFrom, put, ParagraphState.next, hflow]

theorem layoutFrom_eq_run (s : ParagraphState) (rs : List α) :
    φ.layoutFrom s rs = φ.layoutPass.run s rs ++ φ.closing (φ.layoutPass.after s rs) := by
  induction rs generalizing s with
  | nil => rfl
  | cons r rs ih =>
    rw [layoutFrom_cons, ih, Pass.run_cons, Pass.after_cons, List.append_assoc]
    rfl

/-! ### Records in a row -/

/-- After a title or the end of a scene no paragraph is open. -/
theorem after_concat_of_closes {r : α} (h : φ.flow r = .title ∨ φ.flow r = .boundary)
    (s : ParagraphState) (rs : List α) : φ.layoutPass.after s (rs ++ [r]) = .outside := by
  rw [Pass.after_append, Pass.after_singleton, layoutPass_next]
  rcases h with h | h <;> rw [h] <;> rfl

/-- Where the first list leaves no paragraph open, the layout goes on as if it began there. -/
theorem layoutFrom_append_of_outside {s : ParagraphState} {xs : List α}
    (h : φ.layoutPass.after s xs = .outside) (ys : List α) :
    φ.layoutFrom s (xs ++ ys) = φ.layoutFrom s xs ++ φ.layout ys := by
  rw [layoutFrom_eq_run, layoutFrom_eq_run, layout, layoutFrom_eq_run, Pass.run_append,
    Pass.after_append, h, closing, List.append_nil, List.append_assoc]

/-! ### What is kept -/

variable {φ}

theorem filterMap_indentFor {f : α → Option β} (h : f φ.indent = none)
    (indentable produced : Bool) : (φ.indentFor indentable produced).filterMap f = [] := by
  rw [indentFor]
  split <;> simp [h]

/-- A map of records that sees none of those that a layout puts in or takes out. -/
structure Sees (φ : Flowing α) (f : α → Option β) : Prop where
  lineBreak : f φ.lineBreak = none
  indent : f φ.indent = none
  control : ∀ {r}, (φ.flow r).isControl → f r = none

namespace Sees

variable {f : α → Option β}

theorem filterMap_closing (h : Sees φ f) (s : ParagraphState) :
    (φ.closing s).filterMap f = [] := by
  rcases s with - | - | - <;> simp [closing, h.lineBreak]

theorem filterMap_put (h : Sees φ f) {r : α} {part : Flow} (hr : part.isControl → f r = none)
    (s : ParagraphState) : (φ.put s r part).filterMap f = [r].filterMap f := by
  have hnone : part.isControl → [r].filterMap f = [] := fun hc ↦ by
    rw [List.filterMap_cons_none (hr hc), List.filterMap_nil]
  cases part with
  | title => rw [put, List.filterMap_append, h.filterMap_closing, List.nil_append]
  | boundary => rw [put, List.filterMap_append, h.filterMap_closing, List.nil_append]
  | passive => rw [put]
  | paragraphStart => rw [put, h.filterMap_closing, hnone rfl]
  | paragraphEnd => rw [put, h.filterMap_closing, hnone rfl]
  | lineBreak =>
    rw [hnone rfl]
    cases s with
    | outside => simp [put, h.lineBreak]
    | inside produced => exact h.filterMap_closing _
  | body indentable =>
    cases s with
    | outside =>
      rw [put, List.filterMap_append, filterMap_indentFor h.indent, List.nil_append,
        ← List.singleton_append, List.filterMap_append]
      simp [h.lineBreak]
    | inside produced =>
      rw [put, List.filterMap_append, filterMap_indentFor h.indent, List.nil_append]

/-- **The layout keeps** every record but those that it puts in or takes out, in its place. -/
theorem filterMap_layoutFrom (h : Sees φ f) (s : ParagraphState) (rs : List α) :
    (φ.layoutFrom s rs).filterMap f = rs.filterMap f := by
  induction rs generalizing s with
  | nil => exact h.filterMap_closing s
  | cons r rs ih =>
    rw [layoutFrom_cons, List.filterMap_append, h.filterMap_put h.control, ih,
      ← List.filterMap_append, List.singleton_append]

end Sees

/-! ### Where a passive record stands -/

theorem mem_put {s : ParagraphState} {r c : α} {part : Flow} (h : c ∈ φ.put s r part) :
    c = r ∨ c = φ.lineBreak ∨ c = φ.indent := by
  have hclosing : c ∈ φ.closing s → c = φ.lineBreak := by
    rcases s with - | - | - <;> simp [closing]
  have hindentFor {i b : Bool} : c ∈ φ.indentFor i b → c = φ.indent := by
    rw [indentFor]
    split <;> simp
  cases part <;> cases s <;> simp only [put, List.mem_append, List.mem_cons] at h <;> grind

/-- A passive record that the layout does not put in itself stands in a layout after what is laid
out for the records before it. -/
theorem exists_eq_run_of_layoutFrom_eq {c : α} (hc : φ.flow c = .passive)
    (hbreak : c ≠ φ.lineBreak) (hindent : c ≠ φ.indent) {s : ParagraphState} {rs xs ys : List α}
    (h : φ.layoutFrom s rs = xs ++ c :: ys) :
    ∃ qs ts, rs = qs ++ c :: ts ∧ xs = φ.layoutPass.run s qs := by
  induction rs generalizing s xs with
  | nil =>
    have hmem : c ∈ φ.closing s := by
      rw [← layoutFrom, h]
      exact List.mem_append_right _ List.mem_cons_self
    rcases s with - | - | - <;> simp [closing, hbreak] at hmem
  | cons r rs ih =>
    rw [layoutFrom_cons] at h
    -- the record stands behind what is put out for `r`, or it is a part of that
    rcases List.append_eq_append_iff.1 h with ⟨zs, rfl, hzs⟩ | ⟨_ | ⟨z, zs⟩, hput, hzs⟩
    · obtain ⟨qs, ts, rfl, rfl⟩ := ih hzs
      exact ⟨r :: qs, ts, rfl, rfl⟩
    · rw [List.nil_append, ← List.nil_append (c :: ys)] at hzs
      obtain ⟨qs, ts, rfl, hqs⟩ := ih hzs.symm
      refine ⟨r :: qs, ts, rfl, ?_⟩
      rw [Pass.run_cons, layoutPass_next, ← hqs, List.append_nil, ← List.append_nil xs, ← hput]
      rfl
    · obtain ⟨rfl, -⟩ := List.cons.inj hzs
      have hmem : c ∈ φ.put s r (φ.flow r) := by
        rw [hput]
        exact List.mem_append_right _ List.mem_cons_self
      obtain rfl : c = r := (mem_put hmem).resolve_right (not_or.2 ⟨hbreak, hindent⟩)
      rw [hc, put] at hput
      obtain ⟨rfl, -⟩ : xs = [] ∧ zs = [] := by cases xs <;> simp_all
      exact ⟨[], rs, rfl, rfl⟩

/-! ### Where the text ends -/

/-- A run of records that is empty, or ends with a line break. -/
def EndsLine (φ : Flowing α) (rs : List α) : Prop :=
  rs = [] ∨ ∃ ps, rs = ps ++ [φ.lineBreak]

theorem endsLine_append_of_endsLine {xs ys : List α} (hxs : φ.EndsLine xs)
    (hys : φ.EndsLine ys) : φ.EndsLine (xs ++ ys) := by
  rcases hys with rfl | ⟨ps, rfl⟩
  · rwa [List.append_nil]
  · exact .inr ⟨xs ++ ps, (List.append_assoc ..).symm⟩

/-- Text that is laid out from a state on is a run of whole lines, and finishes the line that the
paragraph has begun. -/
structure FinishesLine (φ : Flowing α) (p : α → Bool) (s : ParagraphState) (rs : List α) :
    Prop where
  endsLine : φ.EndsLine (rs.filter p)
  ne_nil : s = .inside true → rs.filter p ≠ []

section FinishesLine

variable {p : α → Bool} (hbreak : p φ.lineBreak = true)
include hbreak

theorem finishesLine_closing (s : ParagraphState) : φ.FinishesLine p s (φ.closing s) := by
  rcases s with - | - | - <;> constructor <;> simp [closing, hbreak, EndsLine]

theorem finishesLine_closing_append (s : ParagraphState) {rs : List α}
    (h : φ.EndsLine (rs.filter p)) : φ.FinishesLine p s (φ.closing s ++ rs) := by
  have hclosing := finishesLine_closing hbreak s
  refine ⟨?_, fun hs ↦ ?_⟩
  · rw [List.filter_append]
    exact endsLine_append_of_endsLine hclosing.endsLine h
  · rw [List.filter_append]
    exact List.append_ne_nil_of_left_ne_nil (hclosing.ne_nil hs) _

/-- One record: only body records and line breaks may count as text. -/
theorem finishesLine_put_append {r : α} {part : Flow}
    (hr : part = .title ∨ part = .boundary ∨ part = .passive → p r = false)
    {s : ParagraphState} {rs : List α} (h : φ.FinishesLine p (s.next part) rs) :
    φ.FinishesLine p s (φ.put s r part ++ rs) := by
  cases part with
  | title =>
    have hp : p r = false := hr (.inl rfl)
    rw [put, List.append_assoc]
    exact finishesLine_closing_append hbreak s (by simpa [hp] using h.endsLine)
  | boundary =>
    have hp : p r = false := hr (.inr (.inl rfl))
    rw [put, List.append_assoc]
    exact finishesLine_closing_append hbreak s (by simpa [hp] using h.endsLine)
  | passive =>
    have hp : ¬ p r = true := by rw [hr (.inr (.inr rfl))]; exact Bool.false_ne_true
    have hfilter : (φ.put s r .passive ++ rs).filter p = rs.filter p :=
      List.filter_cons_of_neg hp
    exact ⟨by rw [hfilter]; exact h.endsLine, fun hs ↦ by rw [hfilter]; exact h.ne_nil hs⟩
  | paragraphStart => exact finishesLine_closing_append hbreak s h.endsLine
  | paragraphEnd => exact finishesLine_closing_append hbreak s h.endsLine
  | lineBreak =>
    cases s with
    | outside =>
      refine ⟨?_, fun hs ↦ by cases hs⟩
      rw [List.filter_append]
      exact endsLine_append_of_endsLine (.inr ⟨[], by simp [put, hbreak]⟩) h.endsLine
    | inside produced => exact finishesLine_closing_append hbreak _ h.endsLine
  | body indentable =>
    cases s with
    | outside =>
      -- a unit outside a paragraph is followed by a line break of its own
      have hput : φ.put .outside r (.body indentable) =
          (φ.indentFor indentable false ++ [r]) ++ [φ.lineBreak] := by simp [put]
      refine ⟨?_, fun hs ↦ by cases hs⟩
      rw [List.filter_append, hput, List.filter_append,
        List.filter_cons_of_pos (l := []) hbreak]
      exact endsLine_append_of_endsLine (.inr ⟨_, rfl⟩) h.endsLine
    | inside produced =>
      -- a unit in a paragraph leaves its line to what comes after it
      have hne : rs.filter p ≠ [] := h.ne_nil rfl
      obtain ⟨ps, hps⟩ := h.endsLine.resolve_left hne
      refine ⟨?_, fun _ ↦ ?_⟩
      · rw [List.filter_append, hps, ← List.append_assoc]
        exact .inr ⟨_, rfl⟩
      · rw [List.filter_append]
        exact List.append_ne_nil_of_right_ne_nil _ hne

/-- **The text of a layout ends its line**, where only body records and line breaks count as
text. -/
theorem finishesLine_layoutFrom {rs : List α}
    (hrs : ∀ r ∈ rs, φ.flow r = .title ∨ φ.flow r = .boundary ∨ φ.flow r = .passive →
      p r = false) (s : ParagraphState) : φ.FinishesLine p s (φ.layoutFrom s rs) := by
  induction rs generalizing s with
  | nil => exact finishesLine_closing hbreak s
  | cons r rs ih =>
    rw [layoutFrom_cons]
    exact finishesLine_put_append hbreak (hrs r List.mem_cons_self)
      (ih (fun q hq ↦ hrs q (List.mem_cons_of_mem r hq)) _)

end FinishesLine

/-! ### What does not matter -/

/-- A map of records that forgets the indents of a layout, and apart from indents keeps the part of
every record that it keeps. A record that it forgets is passive or closes the paragraph. -/
structure Forgets (φ : Flowing α) (ψ : Flowing β) (f : α → Option β) : Prop where
  lineBreak : f φ.lineBreak = some ψ.lineBreak
  indent : f φ.indent = none
  kept : ∀ {r r'}, f r = some r' → ψ.flow r' = (φ.flow r).flush
  forgotten : ∀ {r}, f r = none → φ.flow r = .passive ∨ φ.flow r = .title

/-- A record that a map forgets does not close a paragraph that is open. -/
def Harmless (φ : Flowing α) (f : α → Option β) (s : ParagraphState) (r : α) : Prop :=
  f r = none → φ.flow r = .title → s = .outside

variable {ψ : Flowing β} {f : α → Option β}

namespace Forgets

theorem filterMap_closing (h : Forgets φ ψ f) (s : ParagraphState) :
    (φ.closing s).filterMap f = ψ.closing s := by
  rcases s with - | - | - <;> simp [closing, h.lineBreak]

theorem filterMap_put (h : Forgets φ ψ f) {r : α} {r' : β} (hr : f r = some r')
    (s : ParagraphState) (part : Flow) :
    (φ.put s r part).filterMap f = ψ.put s r' part.flush := by
  have hone : [r].filterMap f = [r'] := List.filterMap_cons_some hr
  cases part with
  | title =>
    rw [put, List.filterMap_append, h.filterMap_closing, hone]
    rfl
  | boundary =>
    rw [put, List.filterMap_append, h.filterMap_closing, hone]
    rfl
  | passive => exact hone
  | paragraphStart => exact h.filterMap_closing s
  | paragraphEnd => exact h.filterMap_closing s
  | lineBreak =>
    cases s with
    | outside => simp [put, Flow.flush, h.lineBreak]
    | inside produced => exact h.filterMap_closing _
  | body indentable =>
    cases s with
    | outside =>
      rw [put, List.filterMap_append, filterMap_indentFor h.indent]
      simp [hr, h.lineBreak, Flow.flush, put, indentFor]
    | inside produced =>
      rw [put, List.filterMap_append, filterMap_indentFor h.indent, hone]
      simp [Flow.flush, put, indentFor]

/-- **Forgetting commutes with the layout**, where every record is harmless when it is met. -/
theorem filterMap_layoutFrom (h : Forgets φ ψ f) {s : ParagraphState} {rs : List α}
    (hrs : φ.layoutPass.Along (φ.Harmless f) s rs) :
    (φ.layoutFrom s rs).filterMap f = ψ.layoutFrom s (rs.filterMap f) := by
  induction rs generalizing s with
  | nil => exact h.filterMap_closing s
  | cons r rs ih =>
    obtain ⟨hmet, hrest⟩ := hrs
    rw [layoutPass_next] at hrest
    rw [layoutFrom_cons, List.filterMap_append, ih hrest]
    cases hr : f r with
    | some r' =>
      rw [List.filterMap_cons_some hr, layoutFrom_cons, h.filterMap_put hr, h.kept hr,
        ParagraphState.next_flush]
    | none =>
      have hput : φ.put s r (φ.flow r) = [r] ∧ s.next (φ.flow r) = s := by
        rcases h.forgotten hr with hflow | hflow
        · simp [put, hflow, ParagraphState.next]
        · obtain rfl := hmet hr hflow
          simp [put, hflow, ParagraphState.next, closing]
      rw [hput.1, hput.2, List.filterMap_cons_none hr, List.filterMap_cons_none hr]
      rfl

end Forgets

end Flowing

end Manuscript
