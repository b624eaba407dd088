/-!
# Blank characters and trimming

Text is trimmed by the Unicode property `White_Space`, which is wider than the ASCII class of
`Char.isWhitespace`: it holds the ideographic space, the no-break space and the line and paragraph
separators, and it does not hold the zero-width space or the byte order mark.

Everything is defined on `List Char`; the `String` forms only wrap it. The small lemmas say when a
trimmed text is empty: `trim_eq_empty_iff` puts it as a fact about the text before trimming.
-/

namespace Manuscript.Text

/-- The ranges of `White_Space`, both ends included. -/
def blankRanges : List (Nat × Nat) :=
  [(0x09, 0x0D), (0x20, 0x20), (0x85, 0x85), (0xA0, 0xA0), (0x1680, 0x1680), (0x2000, 0x200A),
   (0x2028, 0x2029), (0x202F, 0x202F), (0x205F, 0x205F), (0x3000, 0x3000)]

/-- Whether a character has the property `White_Space`. -/
def isBlank (c : Char) : Bool :=
  blankRanges.any fun r ↦ r.1 ≤ c.toNat && c.toNat ≤ r.2

/-- The text without its leading blanks. -/
def trimStartChars (cs : List Char) : List Char :=
  cs.dropWhile isBlank

/-- The text without its trailing blanks. -/
def trimEndChars (cs : List Char) : List Char :=
  (cs.reverse.dropWhile isBlank).reverse

/-- The text without its blanks on either side. -/
def trimChars (cs : List Char) : List Char :=
  trimEndChars (trimStartChars cs)

/-- The text without its trailing blanks. -/
def trimEnd (s : String) : String :=
  String.ofList (trimEndChars s.toList)

/-- The text without its blanks on either side. -/
def trim (s : String) : String :=
  String.ofList (trimChars s.toList)

/-- Whether a text shows nothing: it has no character that is not blank. -/
def isBlankText (s : String) : Bool :=
  s.toList.all isBlank

/-! ### What trimming leaves -/

theorem trimStartChars_eq_nil_iff {cs : List Char} :
    trimStartChars cs = [] ↔ ∀ c ∈ cs, isBlank c := by
  induction cs with
  | nil => simp [trimStartChars]
  | cons c cs ih =>
    by_cases h : isBlank c
    · rw [trimStartChars, List.dropWhile_cons_of_pos h, ← trimStartChars, ih]
      simp [h]
    · rw [trimStartChars, List.dropWhile_cons_of_neg h]
      simp [h]

theorem trimEndChars_eq_nil_iff {cs : List Char} :
    trimEndChars cs = [] ↔ ∀ c ∈ cs, isBlank c := by
  rw [trimEndChars, List.reverse_eq_nil_iff, ← trimStartChars, trimStartChars_eq_nil_iff]
  simp

/-- A text that shows nothing is one that trims to nothing. -/
theorem trim_eq_empty_iff {s : String} : trim s = "" ↔ isBlankText s = true := by
  rw [trim, isBlankText, List.all_eq_true, ← String.toList_inj]
  simp only [String.toList_ofList, String.toList_empty]
  rw [trimChars, trimEndChars_eq_nil_iff]
  constructor
  · intro h c hc
    rw [← List.takeWhile_append_dropWhile (p := isBlank) (l := s.toList)] at hc
    rcases List.mem_append.1 hc with hc | hc
    · exact List.all_eq_true.1 List.all_takeWhile c hc
    · exact h c hc
  · intro h c hc
    exact h c ((List.dropWhile_sublist isBlank).subset hc)

end Manuscript.Text
