import Mathlib.Data.List.DropRight
import Manuscript.Text.Lines

/-!
# Lines of texts in a row

Behind a text that ends its last line new lines begin (`linesOf_append`), and what follows an open
line goes on with it, unless the two meet inside a line end (`linesOf_append_of_open`). A carriage
return that a line has at its own end is taken for a part of the line end (`exists_lines_eq_cons`);
only a line without one is the same whatever ends it (`IsLine`).
-/

namespace Manuscript.Text

/-! ### Texts in a row -/

theorem consLine_ne_nil (c : Char) (ls : List (List Char)) : consLine c ls ≠ [] := by
  cases ls <;> exact List.cons_ne_nil _ _

theorem linesOf_ne_nil {cs : List Char} (h : cs ≠ []) : linesOf cs ≠ [] := by
  fun_cases linesOf cs with
  | case1 => exact absurd rfl h
  | case2 => exact List.cons_ne_nil _ _
  | case3 => exact List.cons_ne_nil _ _
  | case4 c cs => exact consLine_ne_nil c _

/-- A character that neither ends a line nor belongs to a line end opens the line of what
follows. -/
theorem linesOf_cons {c : Char} {cs : List Char} (hn : c ≠ '\n')
    (hrn : ∀ ds, c = '\r' → cs ≠ '\n' :: ds) : linesOf (c :: cs) = consLine c (linesOf cs) :=
  linesOf.eq_4 c cs hn hrn

theorem consLine_append {ls : List (List Char)} (h : ls ≠ []) (c : Char)
    (ms : List (List Char)) : consLine c (ls ++ ms) = consLine c ls ++ ms := by
  cases ls with
  | nil => exact absurd rfl h
  | cons l ls => rfl

/-- Behind a text that ends its last line, new lines begin. -/
theorem linesOf_append {xs : List Char} (h : xs = [] ∨ xs.getLast? = some '\n')
    (ys : List Char) : linesOf (xs ++ ys) = linesOf xs ++ linesOf ys := by
  have htail : ∀ {c : Char} {cs : List Char}, (c :: cs).getLast? = some '\n' →
      cs = [] ∨ cs.getLast? = some '\n' := by
    intro c cs hc
    cases cs with
    | nil => exact .inl rfl
    | cons d ds => exact .inr (by rwa [List.getLast?_cons_cons] at hc)
  fun_induction linesOf xs with
  | case1 => rfl
  | case2 cs ih =>
    have hcs := htail (h.resolve_left (List.cons_ne_nil _ _))
    rw [List.cons_append, linesOf, ih hcs, List.cons_append]
  | case3 cs ih =>
    have hlast := h.resolve_left (List.cons_ne_nil _ _)
    rw [List.getLast?_cons_cons] at hlast
    rw [List.cons_append, List.cons_append, linesOf, ih (htail hlast), List.cons_append]
  | case4 c cs hn hrn ih =>
    have hlast := h.resolve_left (List.cons_ne_nil _ _)
    -- a single character that ends a line is a line feed
    obtain ⟨d, ds, rfl⟩ := List.exists_cons_of_ne_nil (l := cs) fun hnil ↦ by
      rw [hnil] at hlast
      exact hn (Option.some.inj hlast)
    have hrn' : ∀ es, c = '\r' → d :: ds ++ ys ≠ '\n' :: es := by
      rintro es hc heq
      obtain ⟨rfl, -⟩ := List.cons.inj heq
      exact hrn ds hc rfl
    rw [List.cons_append, linesOf_cons hn hrn', ih (htail hlast),
      consLine_append (linesOf_ne_nil (List.cons_ne_nil d ds))]

/-! ### The open line -/

theorem foldr_consLine_cons (cs l : List Char) (ls : List (List Char)) :
    cs.foldr consLine (l :: ls) = (cs ++ l) :: ls := by
  induction cs with
  | nil => rfl
  | cons c cs ih => rw [List.foldr_cons, ih]; rfl

theorem foldr_consLine_nil {cs : List Char} (h : cs ≠ []) : cs.foldr consLine [] = [cs] := by
  induction cs with
  | nil => exact absurd rfl h
  | cons c cs ih =>
    rcases cs with - | ⟨d, ds⟩
    · rfl
    · rw [List.foldr_cons, ih (List.cons_ne_nil d ds)]
      rfl

/-- What follows an open line goes on with it, unless the two meet inside a line end. -/
theorem linesOf_append_of_open {cs ds : List Char} (hopen : '\n' ∉ cs)
    (hmeet : ¬ (cs.getLast? = some '\r' ∧ ds.head? = some '\n')) :
    linesOf (cs ++ ds) = cs.foldr consLine (linesOf ds) := by
  induction cs with
  | nil => rfl
  | cons c cs ih =>
    obtain ⟨hc, hcs⟩ := not_or.1 (mt List.mem_cons.2 hopen)
    have hnext : ∀ es, c = '\r' → cs ++ ds ≠ '\n' :: es := by
      rintro es rfl heq
      rcases cs with - | ⟨d, cs⟩
      · rw [List.nil_append] at heq
        exact hmeet ⟨rfl, by rw [heq]; rfl⟩
      · obtain ⟨rfl, -⟩ := List.cons.inj heq
        exact hcs List.mem_cons_self
    have hrest : ¬ (cs.getLast? = some '\r' ∧ ds.head? = some '\n') := by
      rintro ⟨hlast, hhead⟩
      rcases cs with - | ⟨d, cs⟩
      · cases hlast
      · exact hmeet ⟨by rwa [List.getLast?_cons_cons], hhead⟩
    rw [List.cons_append, linesOf_cons (Ne.symm hc) hnext, ih hcs hrest, List.foldr_cons]

theorem linesOf_of_open {cs : List Char} (hopen : '\n' ∉ cs) (hne : cs ≠ []) :
    linesOf cs = [cs] := by
  have hlines : linesOf (cs ++ []) = cs.foldr consLine (linesOf []) :=
    linesOf_append_of_open hopen (by simp)
  rwa [List.append_nil, linesOf, foldr_consLine_nil hne] at hlines

theorem lines_of_open {raw : String} (hopen : '\n' ∉ raw.toList) (hne : raw ≠ "") :
    lines raw = [raw] := by
  rw [lines, linesOf_of_open hopen (by simpa using hne), List.map_singleton, String.ofList_toList]

/-- A line is ended by a carriage return and a line feed. -/
theorem linesOf_append_lineEnd {line : List Char} (hopen : '\n' ∉ line) (rest : List Char) :
    linesOf (line ++ '\r' :: '\n' :: rest) = line :: linesOf rest := by
  rw [linesOf_append_of_open hopen (by simp), linesOf, foldr_consLine_cons, List.append_nil]

/-- A line feed ends a line, of which a carriage return in front of the line feed is no part. -/
theorem exists_lines_eq_cons {raw : String} (hopen : '\n' ∉ raw.toList) (rest : String) :
    ∃ line, lines (raw ++ "\n" ++ rest) = line :: lines rest ∧
      (raw = line ∨ raw = line ++ "\r") := by
  have hraw : (raw ++ "\n" ++ rest).toList = raw.toList ++ '\n' :: rest.toList := by simp
  rw [lines, lines, hraw]
  by_cases hlast : raw.toList.getLast? = some '\r'
  · obtain ⟨cs, hcs⟩ := List.getLast?_eq_some_iff.1 hlast
    rw [hcs] at hopen
    refine ⟨String.ofList cs, ?_, .inr ?_⟩
    · rw [hcs, List.append_assoc, List.singleton_append,
        linesOf_append_lineEnd fun hmem ↦ hopen (List.mem_append_left _ hmem), List.map_cons]
    · rw [← String.toList_inj, hcs, String.toList_append, String.toList_ofList]
      rfl
  · refine ⟨raw, ?_, .inl rfl⟩
    rw [linesOf_append_of_open hopen fun h ↦ hlast h.1, linesOf, foldr_consLine_cons,
      List.append_nil, List.map_cons, String.ofList_toList]

/-- A text with a line feed has a first one. -/
theorem exists_eq_append_lineFeed {text : String} (h : '\n' ∈ text.toList) :
    ∃ raw rest, text = raw ++ "\n" ++ rest ∧ '\n' ∉ raw.toList := by
  obtain ⟨cs, ds, htext, hcs⟩ := List.eq_append_cons_of_mem h
  refine ⟨String.ofList cs, String.ofList ds, ?_, by rwa [String.toList_ofList]⟩
  rw [← String.toList_inj, htext]
  simp

/-- A text is finished lines and an open one behind them. -/
theorem exists_open_line (cs : List Char) :
    ∃ finished line, cs = finished ++ line ∧
      (finished = [] ∨ finished.getLast? = some '\n') ∧ '\n' ∉ line := by
  refine ⟨_, _, (List.rdropWhile_append_rtakeWhile (p := (· ≠ '\n'))).symm, ?_, fun hmem ↦ ?_⟩
  · rcases eq_or_ne (cs.rdropWhile (· ≠ '\n')) [] with hnil | hne
    · exact .inl hnil
    · have hlast := List.rdropWhile_last_not _ _ hne
      refine .inr ?_
      rw [List.getLast?_eq_some_getLast hne]
      simpa using hlast
  · simpa using List.mem_rtakeWhile_imp hmem

/-! ### Lines put together -/

/-- A text that can be a line whatever ends it: it holds no line feed, and at its end there is no
carriage return that a line feed could take. -/
structure IsLine (line : String) : Prop where
  lineFeed_notMem : '\n' ∉ line.toList
  getLast?_ne : line.toList.getLast? ≠ some '\r'

instance (line : String) : Decidable (IsLine line) :=
  decidable_of_iff ('\n' ∉ line.toList ∧ line.toList.getLast? ≠ some '\r')
    ⟨fun h ↦ ⟨h.1, h.2⟩, fun h ↦ ⟨h.1, h.2⟩⟩

/-- What ends a line: a line feed, or a carriage return with a line feed. -/
def IsLineEnd (ending : String) : Prop :=
  ending = "\n" ∨ ending = "\r\n"

/-- The text of lines, each with the given end. -/
def unlines (ending : String) (ls : List String) : String :=
  String.join (ls.map (· ++ ending))

end Manuscript.Text
