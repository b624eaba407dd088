/-!
# Cutting text at separators

The text before and after the first occurrence of a pattern (`cutAt`), the fields between
separators (`fields`), and ASCII case folding. The definitions recurse on `List Char`; the `String`
forms wrap them.
-/

namespace Manuscript.Text

/-- The parts before and after the first occurrence of `pat`, if there is one. -/
def cutAt (pat : List Char) : List Char → Option (List Char × List Char)
  | [] => if pat.isEmpty then some ([], []) else none
  | c :: cs =>
    match pat.isPrefixOf? (c :: cs) with
    | some rest => some ([], rest)
    | none => (cutAt pat cs).map fun p ↦ (c :: p.1, p.2)

/-- The parts before and after the first occurrence of `pat`, if there is one. -/
def splitOnce (pat s : String) : Option (String × String) :=
  (cutAt pat.toList s.toList).map fun p ↦ (String.ofList p.1, String.ofList p.2)

/-- Puts a character in front of the first field. -/
def consField (c : Char) : List (List Char) → List (List Char)
  | [] => [[c]]
  | f :: fs => (c :: f) :: fs

/-- The fields between the separators; a text without a separator is one field. -/
def fieldsOf (sep : Char) : List Char → List (List Char)
  | [] => [[]]
  | c :: cs => if c = sep then [] :: fieldsOf sep cs else consField c (fieldsOf sep cs)

/-- The fields between the separators; a text without a separator is one field. -/
def fields (sep : Char) (s : String) : List String :=
  (fieldsOf sep s.toList).map String.ofList

/-- What follows `pre`, if the text begins with it. -/
def afterPrefix? (pre s : String) : Option String :=
  (pre.toList.isPrefixOf? s.toList).map String.ofList

/-- The text with its ASCII capitals made small. -/
def asciiLower (s : String) : String :=
  String.ofList (s.toList.map Char.toLower)

/-- A single character is looked for one place after the other. -/
theorem cutAt_singleton_cons (sep c : Char) (cs : List Char) :
    cutAt [sep] (c :: cs) =
      if sep == c then some ([], cs) else (cutAt [sep] cs).map fun p ↦ (c :: p.1, p.2) := by
  have hprefix : [sep].isPrefixOf? (c :: cs) = if sep == c then some cs else none := rfl
  rw [cutAt, hprefix]
  cases sep == c <;> rfl

/-- A text is cut at the first occurrence of a character. -/
theorem cutAt_append_cons {sep : Char} {xs : List Char} (h : sep ∉ xs) (ys : List Char) :
    cutAt [sep] (xs ++ sep :: ys) = some (xs, ys) := by
  induction xs with
  | nil => rw [List.nil_append, cutAt_singleton_cons, if_pos (beq_self_eq_true sep)]
  | cons x xs ih =>
    obtain ⟨hx, hxs⟩ := not_or.1 (mt List.mem_cons.2 h)
    rw [List.cons_append, cutAt_singleton_cons, if_neg (by rwa [beq_iff_eq]), ih hxs]
    rfl

/-- A text is cut at a character only where it stands first. -/
theorem cutAt_singleton_eq_some_iff {sep : Char} {cs xs ys : List Char} :
    cutAt [sep] cs = some (xs, ys) ↔ cs = xs ++ sep :: ys ∧ sep ∉ xs := by
  refine ⟨fun h ↦ ?_, fun ⟨hcs, hxs⟩ ↦ hcs ▸ cutAt_append_cons hxs ys⟩
  induction cs generalizing xs with
  | nil => cases h
  | cons c cs ih =>
    rw [cutAt_singleton_cons] at h
    split at h
    · rename_i hc
      obtain ⟨rfl, rfl⟩ := Prod.mk.inj (Option.some.inj h)
      exact ⟨by rw [eq_of_beq hc]; rfl, List.not_mem_nil⟩
    · rename_i hc
      obtain ⟨⟨before, after⟩, hcut, heq⟩ := Option.map_eq_some_iff.1 h
      obtain ⟨rfl, rfl⟩ := Prod.mk.inj heq
      obtain ⟨rfl, hbefore⟩ := ih hcut
      have hne : sep ≠ c := fun heq ↦ hc (beq_iff_eq.2 heq)
      exact ⟨rfl, List.not_mem_cons_of_ne_of_not_mem hne hbefore⟩

end Manuscript.Text
