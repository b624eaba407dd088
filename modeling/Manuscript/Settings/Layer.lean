import Manuscript.Datum.Basic
import Manuscript.Text.Number
import Manuscript.Text.Split

/-!
# Layers of settings

Settings come in layers, of which a later one is laid over the earlier ones: a table is laid over a
table entry by entry, and anything else takes the place of what was there. At the top of a layer a
key that consists of names with dots between them stands for the path of these names.
-/

namespace Manuscript.Layer

/-- The value at a key. -/
def valueAt? (key : Datum) (es : List (Datum × Datum)) : Option Datum :=
  (es.find? fun e ↦ key.same e.1).map Prod.snd

/-- The entries with another value at a key. -/
def replaceAt (key value : Datum) : List (Datum × Datum) → List (Datum × Datum)
  | [] => [(key, value)]
  | e :: es => if key.same e.1 then (key, value) :: es else e :: replaceAt key value es

/-- The entries of a mapping, and none of anything else. -/
def entriesOf : Datum → List (Datum × Datum)
  | .map es => es
  | _ => []

mutual

/-- A layer laid over another one. -/
def overlay (base : Datum) : Datum → Datum
  | .map es => .map (overlayEntries (entriesOf base) es)
  | d => d

/-- Entries laid over other ones. -/
def overlayEntries (base : List (Datum × Datum)) : List (Datum × Datum) → List (Datum × Datum)
  | [] => base
  | (k, v) :: es =>
    overlayEntries (replaceAt k (overlay ((valueAt? k base).getD .null) v) base) es

end

/-- Whether a character may stand in a name of a path. -/
def isNameChar (c : Char) : Bool :=
  c.isAlphanum || c = '_' || c = '-'

/-- The value under a path of names. -/
def nest (d : Datum) : List String → Datum
  | [] => d
  | name :: names => .variant name (nest d names)

/-- An entry at the top of a layer, with its key taken as a path if it is one. -/
def expandEntry (e : Datum × Datum) : Datum :=
  match e.1 with
  | .text key =>
    let names := Text.fields '.' key
    if names.all fun name ↦ name ≠ "" && name.toList.all isNameChar then nest e.2 names
    else .variant key e.2
  | _ => .map []

/-- The layers laid over each other, the last one on top. -/
def stack (layers : List Datum) : Datum :=
  (layers.flatMap fun layer ↦ (entriesOf layer).map expandEntry).foldl overlay (.map [])

end Manuscript.Layer
