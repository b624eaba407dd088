import Manuscript.Decimal.Style
import Manuscript.Text.Number
import Manuscript.Word

/-!
# Data as it is interchanged

A `Datum` is what a data file or a message holds: scalars, lists, mappings in file order and values
with a local tag. The readers of the file formats produce it, the typed records are read from it,
and the JSON writer prints it.
-/

namespace Manuscript

/-- A value of a data file. Mappings keep the order of their entries, and their keys may be any
data. -/
inductive Datum where
  | null
  | bool (b : Bool)
  | int (i : Int)
  | float (x : Float)
  | text (s : String)
  | list (items : List Datum)
  | map (entries : List (Datum × Datum))
  | tagged (tag : String) (content : Datum)
  deriving Inhabited

namespace Datum

/-- The datum without the tags around it. -/
def untag : Datum → Datum
  | tagged _ d => d.untag
  | d => d

/-- A mapping whose keys are texts. -/
def ofPairs (es : List (String × Datum)) : Datum :=
  .map (es.map fun e ↦ (.text e.1, e.2))

/-- A list of texts. -/
def ofTexts (ss : List String) : Datum :=
  .list (ss.map .text)

/-- The key as a text, under any tags. -/
def keyText? (d : Datum) : Option String :=
  match d.untag with
  | text s => some s
  | _ => none

/-- The value at a text key of a mapping's entries: the first one there is. -/
def lookup (key : String) : List (Datum × Datum) → Option Datum
  | [] => none
  | (k, v) :: es => if k.keyText? = some key then some v else lookup key es

/-- The value at a text key, if the datum is a mapping that has it. -/
def field? (d : Datum) (key : String) : Option Datum :=
  match d.untag with
  | .map es => lookup key es
  | _ => none

/-- The text, if the datum is one. -/
def text? : Datum → Option String
  | text s => some s
  | _ => none

/-- The items, if the datum is a list. -/
def items? : Datum → Option (List Datum)
  | list ds => some ds
  | _ => none

/-- A datum under the name of the variant that it belongs to. -/
def variant (name : String) (d : Datum) : Datum :=
  .map [(.text name, d)]

/-- The name and the content of a variant. -/
def variant? : Datum → Option (String × Datum)
  | map [(text name, d)] => some (name, d)
  | _ => none

/-! ### Scalars as text -/

/-- A whole number as text. One beyond the signed words of 64 bits goes through a double first. -/
def intText (i : Int) : String :=
  if Word.fitsSigned 64 i then Text.ofInt i else Decimal.plain.write (Float.ofInt i)

/-- A truth value as text. -/
def boolText (b : Bool) : String :=
  if b then "true" else "false"

/-- The text of a scalar; nothing at all stands for the empty text. Lists, mappings and tagged
values have none. -/
def scalarText? : Datum → Option String
  | null => some ""
  | bool b => some (boolText b)
  | int i => some (intText i)
  | float x => some (Decimal.plain.write x)
  | text s => some s
  | list _ => none
  | map _ => none
  | tagged _ _ => none

/-! ### Tags -/

mutual

/-- Whether there is a tag anywhere in the datum. -/
def hasTag : Datum → Bool
  | tagged _ _ => true
  | list ds => hasTagItems ds
  | map es => hasTagEntries es
  | _ => false

/-- Whether there is a tag anywhere in the items. -/
def hasTagItems : List Datum → Bool
  | [] => false
  | d :: ds => hasTag d || hasTagItems ds

/-- Whether there is a tag anywhere in the entries. -/
def hasTagEntries : List (Datum × Datum) → Bool
  | [] => false
  | (k, v) :: es => hasTag k || hasTag v || hasTagEntries es

end

/-! ### Sameness

Two data are the same key if they have the same form and content. Doubles are compared as numbers,
except that "not a number" is the same as itself; mappings are compared without regard to order.
-/

mutual

/-- Whether two data are the same key. -/
def same : Datum → Datum → Bool
  | null, null => true
  | bool a, bool b => a == b
  | int a, int b => a == b
  | float a, float b => a == b || (a.isNaN && b.isNaN)
  | text a, text b => a == b
  | list as, list bs => sameItems as bs
  | map as, map bs => as.length == bs.length && sameEntries as bs
  | tagged t a, tagged u b => t == u && same a b
  | _, _ => false

/-- Whether two lists hold the same data in order. -/
def sameItems : List Datum → List Datum → Bool
  | [], [] => true
  | a :: as, b :: bs => same a b && sameItems as bs
  | _, _ => false

/-- Whether every entry of the first list is an entry of the second. -/
def sameEntries : List (Datum × Datum) → List (Datum × Datum) → Bool
  | [], _ => true
  | (k, v) :: as, bs => (bs.any fun b ↦ same k b.1 && same v b.2) && sameEntries as bs

end

/-- Whether some key stands at two places of a mapping. -/
def hasDuplicateKey : List (Datum × Datum) → Bool
  | [] => false
  | e :: es => (es.any fun d ↦ same e.1 d.1) || hasDuplicateKey es

/-- The entries with the value at a text key, in place of the value there or else at the end. -/
def put (key : String) (value : Datum) : List (Datum × Datum) → List (Datum × Datum)
  | [] => [(.text key, value)]
  | (k, v) :: es =>
    match k with
    | .text s => if s = key then (k, value) :: es else (k, v) :: put key value es
    | _ => (k, v) :: put key value es

end Datum

end Manuscript
