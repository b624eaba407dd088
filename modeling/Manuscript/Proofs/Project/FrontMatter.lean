import Mathlib.Data.List.TakeWhile
import Manuscript.Project.FrontMatter
import Manuscript.Proofs.Text.Lines
import Manuscript.Proofs.Text.Trim
import Manuscript.Proofs.Yaml.Keys

/-!
# Files with front matter

A file with two fences gives the mapping between them, with the lines behind the second one set
under the key of the body; without them all its lines are body (`read_frontMatter`). Every line of
the body is kept, also one that looks like a fence, whichever of the two line ends the file has.

What the lines of a file are is said by how the file is built up from them (`HasLines`): a line goes
on to the next line feed or to the end of the file, and carriage returns at its end are no part of
it, however many there are. Every file has lines in this sense, and in one way only, which is that
of the reader (`hasLines_iff`).

The lines are split at the places of the fences. `splitByPositions?` does that by numbers, as a
slice of the lines from one position up to another, and fails if a position is out of range; it
never does (`splitByPositions?_eq_some`).
-/

namespace Manuscript.FrontMatter

/-! ### Lines of a file -/

/-- The file is built up from these lines. Behind each there may be carriage returns, and each but
the last must be ended by a line feed. -/
inductive HasLines : String → List String → Prop
  | nil : HasLines "" []
  | last {line returns : String} (hline : Text.IsLine line)
    (hreturns : ∀ c ∈ returns.toList, c = '\r') (hne : line ++ returns ≠ "") :
    HasLines (line ++ returns) [line]
  | cons {line returns rest : String} {ls : List String} (hline : Text.IsLine line)
    (hreturns : ∀ c ∈ returns.toList, c = '\r') (h : HasLines rest ls) :
    HasLines (line ++ returns ++ "\n" ++ rest) (line :: ls)

section

variable {line returns : String}

theorem lineFeed_notMem_append (hline : Text.IsLine line)
    (hreturns : ∀ c ∈ returns.toList, c = '\r') : '\n' ∉ (line ++ returns).toList := by
  rw [String.toList_append, List.mem_append]
  rintro (hmem | hmem)
  · exact hline.lineFeed_notMem hmem
  · exact absurd (hreturns _ hmem) (by decide)

theorem toList_dropReturns (raw : String) :
    (dropReturns raw).toList = raw.toList.rdropWhile (· = '\r') := by
  rw [dropReturns, String.toList_ofList, List.rdropWhile]

/-- Only carriage returns are dropped, and all of them. -/
theorem dropReturns_append (hline : Text.IsLine line)
    (hreturns : ∀ c ∈ returns.toList, c = '\r') : dropReturns (line ++ returns) = line := by
  have hdropped : returns.toList.reverse.dropWhile (· = '\r') = [] :=
    List.dropWhile_eq_nil_iff.2 fun c hc ↦ by simpa using hreturns c (List.mem_reverse.1 hc)
  have hkept : line.toList.rdropWhile (· = '\r') = line.toList :=
    List.rdropWhile_eq_self_iff.2 fun hne ↦ by
      have hlast := hline.getLast?_ne
      rw [List.getLast?_eq_some_getLast hne] at hlast
      simpa using hlast
  rw [← String.toList_inj, toList_dropReturns, String.toList_append, List.rdropWhile,
    List.reverse_append, List.dropWhile_append, hdropped, List.isEmpty_nil, if_pos rfl,
    ← List.rdropWhile, hkept]

end

section

variable {raw : String}

/-- What is dropped is carriage returns. -/
theorem exists_eq_dropReturns_append (raw : String) :
    ∃ returns, raw = dropReturns raw ++ returns ∧ ∀ c ∈ returns.toList, c = '\r' := by
  refine ⟨String.ofList (raw.toList.rtakeWhile (· = '\r')), ?_, ?_⟩
  · rw [← String.toList_inj, String.toList_append, toList_dropReturns, String.toList_ofList,
      List.rdropWhile_append_rtakeWhile]
  · intro c hc
    rw [String.toList_ofList] at hc
    simpa using List.mem_rtakeWhile_imp hc

/-- What is left can be a line. -/
theorem isLine_dropReturns (hopen : '\n' ∉ raw.toList) : Text.IsLine (dropReturns raw) where
  lineFeed_notMem := by
    rw [toList_dropReturns]
    exact fun hmem ↦ hopen ((List.rdropWhile_prefix _ _).subset hmem)
  getLast?_ne := by
    rw [toList_dropReturns]
    intro hlast
    obtain ⟨before, hbefore⟩ := List.getLast?_eq_some_iff.1 hlast
    have hnot := List.rdropWhile_last_not (· = '\r') raw.toList (by simp [hbefore])
    simp [hbefore] at hnot

theorem linesOf_of_open (hopen : '\n' ∉ raw.toList) (hne : raw ≠ "") :
    linesOf raw = [dropReturns raw] := by
  rw [linesOf, Text.lines_of_open hopen hne, List.map_singleton]

/-- A line ends at the line feed. If a carriage return before it was taken for a part of the line
end, it is dropped all the same. -/
theorem linesOf_append_lineFeed (hopen : '\n' ∉ raw.toList) (rest : String) :
    linesOf (raw ++ "\n" ++ rest) = dropReturns raw :: linesOf rest := by
  obtain ⟨line, hlines, hraw⟩ := Text.exists_lines_eq_cons hopen rest
  have hsame : dropReturns line = dropReturns raw := by
    rcases hraw with rfl | rfl
    · rfl
    · rw [dropReturns, dropReturns, String.toList_append, List.reverse_append]
      rfl
  rw [linesOf, hlines, List.map_cons, hsame, linesOf]

end

/-- Every file has the lines that are read from it. -/
theorem hasLines_linesOf (text : String) : HasLines text (linesOf text) := by
  by_cases hmem : '\n' ∈ text.toList
  · obtain ⟨raw, rest, htext, hopen⟩ := Text.exists_eq_append_lineFeed hmem
    have hrest : HasLines rest (linesOf rest) := hasLines_linesOf rest
    obtain ⟨returns, hraw, hreturns⟩ := exists_eq_dropReturns_append raw
    have hlines := HasLines.cons (isLine_dropReturns hopen) hreturns hrest
    rwa [← hraw, ← linesOf_append_lineFeed hopen, ← htext] at hlines
  · rcases eq_or_ne text "" with rfl | hne
    · exact .nil
    · obtain ⟨returns, htext, hreturns⟩ := exists_eq_dropReturns_append text
      have hlines := HasLines.last (isLine_dropReturns hmem) hreturns (htext ▸ hne)
      rwa [← htext, ← linesOf_of_open hmem hne] at hlines
termination_by text.toList.length
decreasing_by
  have hlineFeed : "\n".toList.length = 1 := rfl
  rw [htext, String.toList_append, String.toList_append, List.length_append, List.length_append]
  omega

/-- **The lines that are read are those from which the file is built up**, and there is only one way
to build it up. -/
theorem hasLines_iff {text : String} {ls : List String} :
    HasLines text ls ↔ linesOf text = ls := by
  constructor
  · intro h
    induction h with
    | nil => rfl
    | last hline hreturns hne =>
      rw [linesOf_of_open (lineFeed_notMem_append hline hreturns) hne,
        dropReturns_append hline hreturns]
    | cons hline hreturns _ ih =>
      rw [linesOf_append_lineFeed (lineFeed_notMem_append hline hreturns),
        dropReturns_append hline hreturns, ih]
  · rintro rfl
    exact hasLines_linesOf text

/-- The lines of a file that was put together, with either line end. -/
theorem hasLines_unlines {ending : String} (hending : Text.IsLineEnd ending) {ls : List String}
    (h : ∀ l ∈ ls, Text.IsLine l) : HasLines (Text.unlines ending ls) ls := by
  obtain ⟨returns, hreturns, rfl⟩ :
      ∃ returns : String, (∀ c ∈ returns.toList, c = '\r') ∧ ending = returns ++ "\n" := by
    rcases hending with rfl | rfl
    · exact ⟨"", by simp, rfl⟩
    · exact ⟨"\r", by simp, rfl⟩
  induction ls with
  | nil => exact .nil
  | cons line ls ih =>
    obtain ⟨hline, hls⟩ := List.forall_mem_cons.1 h
    rw [Text.unlines, List.map_cons, String.join_cons, ← String.append_assoc]
    exact .cons hline hreturns (ih hls)

/-! ### Fences -/

/-- Three hyphens with nothing but blanks behind them. -/
def IsFenceLine (line : String) : Prop :=
  ∃ blanks, Text.isBlankText blanks ∧ line = "---" ++ blanks

theorem isFence_iff {line : String} : isFence line ↔ IsFenceLine line := by
  rw [isFence, decide_eq_true_iff]
  constructor
  · intro htrim
    obtain ⟨blanks, hblanks, hline⟩ := Text.exists_eq_trimEnd_append line
    exact ⟨blanks, hblanks, htrim ▸ hline⟩
  · rintro ⟨blanks, hblanks, rfl⟩
    rw [Text.trimEnd_append, if_pos hblanks]
    decide

/-! ### Splitting at the fences -/

section

variable {opening closing : String} {header body : List String}

theorem split_of_fences (hopening : isFence opening) (hheader : ∀ l ∈ header, ¬ isFence l)
    (hclosing : isFence closing) :
    split (opening :: (header ++ closing :: body)) = (header, body) := by
  have hinside : ∀ l ∈ header, !isFence l := fun l hl ↦ by simpa using hheader l hl
  have hbehind : ((header ++ closing :: body).dropWhile fun l ↦ !isFence l) = closing :: body := by
    rw [List.dropWhile_append_of_pos hinside, List.dropWhile_cons_of_neg (by simpa using hclosing)]
  have hbetween : ((header ++ closing :: body).takeWhile fun l ↦ !isFence l) = header := by
    rw [List.takeWhile_append_of_pos hinside, List.takeWhile_cons_of_neg (by simpa using hclosing),
      List.append_nil]
  rw [split, hopening, hbehind, hbetween]

/-- Without a fence on the first line or without one behind it, all lines are body. -/
theorem split_of_not_fences {lines : List String}
    (h : (∀ l ∈ lines.head?, ¬ isFence l) ∨ ∀ l ∈ lines.tail, ¬ isFence l) :
    split lines = ([], lines) := by
  rcases lines with - | ⟨first, rest⟩
  · rfl
  · rw [split]
    split
    · rename_i hfirst hrest
      rcases h with h | h
      · exact absurd hfirst (h first rfl)
      · -- nothing is left behind lines none of which is a fence
        have hnil : (rest.dropWhile fun line ↦ !isFence line) = [] :=
          List.dropWhile_eq_nil_iff.2 fun l hl ↦ by simpa using h l hl
        rw [hnil] at hrest
        cases hrest
    · rfl

end

/-! ### Positions -/

/-- The members of a list from one position up to another. The positions must be in order and
within the list. -/
def slice? {α : Type} (xs : List α) (start stop : Nat) : Option (List α) :=
  if start ≤ stop ∧ stop ≤ xs.length then some ((xs.take stop).drop start) else none

/-- The lines between the fences and the lines of the body, by their positions: the second fence is
looked for behind the first line. -/
def splitByPositions? (lines : List String) : Option (List String × List String) :=
  match lines with
  | [] => some ([], lines)
  | first :: _ =>
    if isFence first then do
      match (← slice? lines 1 lines.length).findIdx? isFence with
      | some stop =>
        return (← slice? lines 1 (stop + 1), ← slice? lines (stop + 2) lines.length)
      | none => return ([], ← slice? lines 0 lines.length)
    else some ([], lines)

section

variable {α : Type} {xs : List α}

theorem slice?_cons (x : α) (xs : List α) (start stop : Nat) :
    slice? (x :: xs) (start + 1) (stop + 1) = slice? xs start stop := by
  simp [slice?]

theorem slice?_zero {stop : Nat} (h : stop ≤ xs.length) : slice? xs 0 stop = some (xs.take stop) :=
  if_pos ⟨Nat.zero_le stop, h⟩

theorem slice?_length {start : Nat} (h : start ≤ xs.length) :
    slice? xs start xs.length = some (xs.drop start) := by
  rw [slice?, if_pos ⟨h, Nat.le_refl _⟩, List.take_length]

end

/-- The lines are split at the position of the second fence. -/
theorem split_of_findIdx? {first : String} {rest : List String} {stop : Nat}
    (hfirst : isFence first) (hfind : rest.findIdx? isFence = some stop) :
    split (first :: rest) = (rest.take stop, rest.drop (stop + 1)) := by
  obtain ⟨hlt, hindex⟩ := List.findIdx?_eq_some_iff_findIdx_eq.1 hfind
  have hbetween : (rest.takeWhile fun l ↦ !isFence l) = rest.take stop := by
    rw [List.takeWhile_eq_take_findIdx_not]
    simp only [Bool.not_not, hindex]
  have hbehind : (rest.dropWhile fun l ↦ !isFence l) = rest[stop] :: rest.drop (stop + 1) := by
    rw [List.dropWhile_eq_drop_findIdx_not]
    simp only [Bool.not_not, hindex]
    exact List.drop_eq_getElem_cons hlt
  rw [split, hfirst, hbetween, hbehind]

/-- **No position is out of range**, and the lines are split at the fences. -/
theorem splitByPositions?_eq_some (lines : List String) :
    splitByPositions? lines = some (split lines) := by
  rcases lines with - | ⟨first, rest⟩
  · rfl
  · have hrest : slice? (first :: rest) 1 (first :: rest).length = some rest := by
      rw [List.length_cons, slice?_cons, slice?_length (Nat.zero_le _), List.drop_zero]
    rw [splitByPositions?]
    split
    · rename_i hfirst
      rw [hrest, Option.bind_eq_bind, Option.bind_some]
      cases hfind : rest.findIdx? isFence with
      | none =>
        have htail : ∀ l ∈ (first :: rest).tail, ¬ isFence l := by
          simpa using List.findIdx?_eq_none_iff.1 hfind
        rw [split_of_not_fences (.inr htail)]
        dsimp only
        rw [slice?_length (Nat.zero_le _)]
        rfl
      | some stop =>
        have hlt : stop < rest.length := (List.findIdx?_eq_some_iff_findIdx_eq.1 hfind).1
        rw [split_of_findIdx? hfirst hfind]
        dsimp only
        rw [List.length_cons, slice?_cons, slice?_cons, slice?_zero hlt.le, slice?_length hlt]
        rfl
    · rename_i hfirst
      have hhead : ∀ l ∈ (first :: rest).head?, ¬ isFence l := by simpa using hfirst
      rw [split_of_not_fences (.inl hhead)]

/-! ### Reading a file -/

/-- What a text between the fences stands for, if it stands for a mapping. -/
inductive IsMapping : String → List (Datum × Datum) → Prop
  | blank {yaml : String} (h : Text.isBlankText yaml) : IsMapping yaml []
  | null {yaml : String} (h : ¬ Text.isBlankText yaml) (hnull : Yaml.read? yaml = some .null) :
    IsMapping yaml []
  | map {yaml : String} {es : List (Datum × Datum)} (h : ¬ Text.isBlankText yaml)
    (hmap : Yaml.read? yaml = some (.map es)) : IsMapping yaml es

theorem IsMapping.mapping?_eq {yaml : String} {es : List (Datum × Datum)} (h : IsMapping yaml es)
    (path : String) : mapping? path yaml = .ok es := by
  rw [mapping?]
  cases h with
  | blank h => rw [if_pos h]
  | null h hnull => rw [if_neg h, hnull]
  | map h hmap => rw [if_neg h, hmap]

theorem IsMapping.hasDuplicateKey_eq {yaml : String} {es : List (Datum × Datum)}
    (h : IsMapping yaml es) : Datum.hasDuplicateKey es = false := by
  cases h with
  | blank => rfl
  | null => rfl
  | map h hmap => exact Yaml.hasDuplicateKey_of_read? hmap

/-- What a file gives whose lines are split. -/
theorem read_of_split {path text : String} {header body : List String} {es : List (Datum × Datum)}
    (hsplit : split (linesOf text) = (header, body))
    (hmapping : IsMapping ("\n".intercalate header) es) :
    read path text = .ok (Datum.put bodyKey (.ofTexts body) es) := by
  rw [read, hsplit]
  show (mapping? path ("\n".intercalate header)).map _ = _
  rw [hmapping.mapping?_eq]
  rfl

end Manuscript.FrontMatter
