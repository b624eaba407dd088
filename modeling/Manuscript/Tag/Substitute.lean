import Manuscript.Table

/-!
# Substituting references in text

A reference is a sigil followed by a key of a dictionary. A text is read from left to right; where
the sigil is followed by a key, the longest such key is taken and the reference is replaced by the
key's value, and any other character stands for itself. What was put in is not read again. The
empty key never matches, so every reference has at least one character, and with an empty sigil bare
keys are references.

`substituteFrom_skip` reduces the run that skips the rest of a reference to a run on what follows
it.
-/

namespace Manuscript.Tag

/-- The entry with the longest key that is not empty and that the text begins with. -/
def longestMatch? : List (List Char × List Char) → List Char → Option (List Char × List Char)
  | [], _ => none
  | e :: es, cs =>
    let best := longestMatch? es cs
    if e.1 ≠ [] ∧ e.1.isPrefixOf cs then
      match best with
      | some b => if b.1.length < e.1.length then some e else some b
      | none => some e
    else best

/-- The entry that a reference at the start of the text refers to, if one stands there. -/
def reference? (sigil : List Char) (dict : List (List Char × List Char)) (cs : List Char) :
    Option (List Char × List Char) :=
  (sigil.isPrefixOf? cs).bind (longestMatch? dict)

/-- The substituted text, where so many characters still belong to a reference read before. -/
def substituteFrom (sigil : List Char) (dict : List (List Char × List Char)) :
    Nat → List Char → List Char
  | _, [] => []
  | skip + 1, _ :: cs => substituteFrom sigil dict skip cs
  | 0, c :: cs =>
    match reference? sigil dict (c :: cs) with
    | some e => e.2 ++ substituteFrom sigil dict (sigil.length + e.1.length - 1) cs
    | none => c :: substituteFrom sigil dict 0 cs

/-- The entries of a table, as characters. -/
def dictionary (table : Table String) : List (List Char × List Char) :=
  table.toList.map fun e ↦ (e.1.toList, e.2.toList)

/-- The text with every reference replaced by the value of its key. -/
def substitute (sigil : String) (table : Table String) (text : String) : String :=
  String.ofList (substituteFrom sigil.toList (dictionary table) 0 text.toList)

/-! ### Skipping -/

/-- Skipping characters of a reference is going on behind them. -/
theorem substituteFrom_skip (sigil : List Char) (dict : List (List Char × List Char)) (n : Nat)
    (cs : List Char) :
    substituteFrom sigil dict n cs = substituteFrom sigil dict 0 (cs.drop n) := by
  induction n generalizing cs with
  | zero => rfl
  | succ n ih =>
    cases cs with
    | nil => rfl
    | cons c cs => exact ih cs

/-- A text that begins with no reference keeps its first character. -/
theorem substituteFrom_cons_of_none {sigil : List Char} {dict : List (List Char × List Char)}
    {c : Char} {cs : List Char} (h : reference? sigil dict (c :: cs) = none) :
    substituteFrom sigil dict 0 (c :: cs) = c :: substituteFrom sigil dict 0 cs := by
  rw [substituteFrom, h]

end Manuscript.Tag
