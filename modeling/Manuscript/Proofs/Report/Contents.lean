import Mathlib.Data.List.Lex
import Mathlib.Data.List.Nodup
import Mathlib.Data.Option.Basic
import Manuscript.Proofs.Text.Number
import Manuscript.Proofs.Text.Split
import Manuscript.Report.Contents

/-!
# Numbers of the table of contents

The numbers of the entries, apart from those of books, increase in lexicographic order, so no two of
them are equal. That holds of every manuscript, also of one in which scenes stand in front of every
chapter or in which a second book begins.

What carries it is the position of the counters, all three of them in a row. Advancing to an element
makes its path greater than the position before (`position_lt_path_advance`), and the position after
is no less than that path, which is its beginning (`path_le_position`); so every later path is
greater. Of the text of a number it is used that the path can be read off it
(`readPath_numberText`).
-/

namespace Manuscript

namespace Numbering

/-- The three counters, from the outermost on. -/
def position (n : Numbering) : List ℕ :=
  n.path .scene

/-- A path is the beginning of the position. -/
theorem path_le_position (n : Numbering) (e : Element) : n.path e ≤ n.position := by
  have hprefix : n.path e <+: n.position := by
    cases e with
    | book => exact List.nil_prefix
    | chapter => exact ⟨[n.episode, n.scene], rfl⟩
    | episode => exact ⟨[n.scene], rfl⟩
    | scene => exact List.prefix_rfl
  exact not_lt.1 hprefix.le

/-- The path of an element is greater than the position of the counters before it. -/
theorem position_lt_path_advance (n : Numbering) {e : Element} (h : e ≠ .book) :
    n.position < (n.advance e).path e := by
  have hsucc := Nat.lt_succ_self
  cases e with
  | book => exact absurd rfl h
  | chapter => exact .rel (hsucc n.chapter)
  | episode => exact .cons (.rel (hsucc n.episode))
  | scene => exact .cons (.cons (.rel (hsucc n.scene)))

end Numbering

namespace Contents

/-! ### Paths -/

/-- The paths of the records of a story other than books, after records that left the given
counters. -/
def pathsFrom : Numbering → Story → List (List ℕ)
  | _, [] => []
  | n, s :: rest =>
    let n' := n.advance s.element
    if s.element = .book then pathsFrom n' rest else n'.path s.element :: pathsFrom n' rest

/-- **One step after the other**: all paths are greater than the position of the counters. -/
theorem position_lt_of_mem_pathsFrom {n : Numbering} {story : Story} {path : List ℕ}
    (h : path ∈ pathsFrom n story) : n.position < path := by
  induction story generalizing n with
  | nil => cases h
  | cons s rest ih =>
    rw [pathsFrom] at h
    split at h
    · rename_i hbook
      -- a book leaves the counters as they are
      have hsame : n.advance s.element = n := by rw [hbook]; rfl
      exact hsame ▸ ih h
    · rename_i hbook
      have hstep := n.position_lt_path_advance hbook
      rcases List.mem_cons.1 h with rfl | h
      · exact hstep
      · exact hstep.trans (((n.advance s.element).path_le_position s.element).trans_lt (ih h))

/-- The paths increase. -/
theorem pairwise_pathsFrom (n : Numbering) (story : Story) :
    (pathsFrom n story).Pairwise (· < ·) := by
  induction story generalizing n with
  | nil => exact .nil
  | cons s rest ih =>
    rw [pathsFrom]
    split
    · exact ih _
    · refine List.pairwise_cons.2 ⟨fun path hpath ↦ ?_, ih _⟩
      exact ((n.advance s.element).path_le_position s.element).trans_lt
        (position_lt_of_mem_pathsFrom hpath)

theorem ne_nil_of_mem_pathsFrom {n : Numbering} {story : Story} {path : List ℕ}
    (h : path ∈ pathsFrom n story) : path ≠ [] := by
  rintro rfl
  exact List.not_lt_nil _ (position_lt_of_mem_pathsFrom h)

/-! ### Their texts -/

/-- Reads a number off its text, if the text is digits with hyphens between them. -/
def readPath (number : String) : Option (List ℕ) :=
  (Text.fields '-' number).mapM fun part ↦ Text.digits? 10 part.toList

theorem mapM_digits?_repr (path : List ℕ) :
    ((path.map Nat.repr).mapM fun part ↦ Text.digits? 10 part.toList) = some path := by
  induction path with
  | nil => rfl
  | cons n path ih =>
    rw [List.map_cons, List.mapM_cons, ih, Text.digits?_repr]
    rfl

/-- A number can be read off its text. -/
theorem readPath_numberText {path : List ℕ} (h : path ≠ []) :
    readPath (numberText path) = some path := by
  have hparts : ∀ part ∈ path.map Nat.repr, '-' ∉ part.toList := by
    intro part hpart hmem
    obtain ⟨n, -, rfl⟩ := List.mem_map.1 hpart
    cases Text.isDigit_of_mem_repr hmem
  have hfields : Text.fields '-' (numberText path) = path.map Nat.repr :=
    Text.fields_intercalate (mt List.map_eq_nil_iff.1 h) hparts
  rw [readPath, hfields, mapM_digits?_repr]

/-- The numbers of entries other than those of books. -/
def numbersOf (entries : List ContentsEntry) : List String :=
  (entries.filter fun e ↦ e.element ≠ .book).map ContentsEntry.number

theorem numbersOf_entriesFrom (r : Resolver) (n : Numbering) (story : Story) :
    numbersOf (entriesFrom r n story) = (pathsFrom n story).map numberText := by
  induction story generalizing n with
  | nil => rfl
  | cons s rest ih =>
    have htail := ih (n.advance s.element)
    rw [numbersOf] at htail
    rw [numbersOf, entriesFrom, pathsFrom]
    split
    · rename_i hbook
      rw [List.filter_cons_of_neg (by simpa using hbook), htail]
    · rename_i hbook
      rw [List.filter_cons_of_pos (by simpa using hbook), List.map_cons, List.map_cons, htail]

theorem map_entriesFrom (r : Resolver) (n : Numbering) (story : Story) :
    (entriesFrom r n story).map (fun e ↦ (e.element, e.title)) =
      story.map fun s ↦ (s.element, r.text "" s.fields.title) := by
  induction story generalizing n with
  | nil => rfl
  | cons s rest ih => rw [entriesFrom, List.map_cons, List.map_cons, ih]

/-- **The numbers of the contents increase.** There is an entry for every record, in order; the
numbers of those that are no books can be read, they increase in lexicographic order, and no two of
them have the same text. -/
theorem numbers_of_project (r : Resolver) (story : Story) :
    (project r story).map (fun e ↦ (e.element, e.title)) =
        story.map (fun s ↦ (s.element, r.text "" s.fields.title)) ∧
      (∃ paths : List (List ℕ), (numbersOf (project r story)).map readPath = paths.map some ∧
        paths.Pairwise (List.Lex (· < ·))) ∧
      (numbersOf (project r story)).Nodup := by
  have hnumbers : numbersOf (project r story) = (pathsFrom .start story).map numberText :=
    numbersOf_entriesFrom r .start story
  have hincreasing := pairwise_pathsFrom .start story
  have hread : (numbersOf (project r story)).map readPath =
      (pathsFrom .start story).map some := by
    rw [hnumbers, List.map_map]
    exact List.map_congr_left fun path hpath ↦
      readPath_numberText (ne_nil_of_mem_pathsFrom hpath)
  refine ⟨map_entriesFrom r .start story, ⟨_, hread, hincreasing⟩, ?_⟩
  -- equal texts would be read as equal numbers
  have hnodup : (pathsFrom .start story).Nodup := hincreasing.imp fun h ↦ h.ne
  exact List.Nodup.of_map readPath (hread ▸ hnodup.map (Option.some_injective _))

/-- Numbers in front of the first chapter begin with zero, and a second book goes on counting. -/
example :
    let record := fun e ↦ (⟨e, "", .empty⟩ : StoryRecord)
    numbersOf (project .empty ([.book, .scene, .episode, .chapter, .scene, .book, .episode,
      .scene].map record)) = ["0-0-1", "0-1", "1", "1-0-1", "1-1", "1-1-1"] := by
  decide

end Contents

end Manuscript
