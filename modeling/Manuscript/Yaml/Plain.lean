import Manuscript.Datum.Basic
import Manuscript.Decimal.Read
import Manuscript.Text.Split

/-!
# What plain scalars say

A plain scalar is nothing, a truth value, a whole number, a double or a text, in this order of
preference. Whole numbers may be hexadecimal, octal or binary; digits behind a leading zero are a
text. A whole number must fit 64 bits; one that needs more, but not more than 128, cannot be read at
all, and one beyond that is a double. The standard tags ask for one of these kinds, and any other
tag that is not local asks for a text.
-/

namespace Manuscript.Yaml

/-- Whether a scalar is digits behind a leading zero, which do not make a number. -/
def isZeroPadded (cs : List Char) : Bool :=
  let digits := match cs with
    | '-' :: rest => rest
    | '+' :: rest => rest
    | _ => cs
  1 < digits.length && digits.head? = some '0' && digits.all Text.isDigit

/-- Reads a number behind the mark of its base. -/
def basedNumber? : List Char → Option Nat
  | '0' :: 'x' :: cs => Text.digits? 16 cs
  | '0' :: 'o' :: cs => Text.digits? 8 cs
  | '0' :: 'b' :: cs => Text.digits? 2 cs
  | _ => none

/-- Reads a whole number of any size. -/
def wholeNumber? (cs : List Char) : Option Int :=
  let magnitude := fun digits : List Char ↦
    (basedNumber? digits).or (if isZeroPadded cs then none else Text.digits? 10 digits)
  match cs with
  | '-' :: digits => (magnitude digits).map fun n ↦ -(n : Int)
  | '+' :: digits => (magnitude digits).map Int.ofNat
  | digits => (magnitude digits).map Int.ofNat

/-- Reads an infinity or what is not a number. -/
def specialFloat? (s : String) : Option Float :=
  if s ∈ [".inf", ".Inf", ".INF", "+.inf", "+.Inf", "+.INF"] then some (1.0 / 0.0)
  else if s ∈ ["-.inf", "-.Inf", "-.INF"] then some (-1.0 / 0.0)
  else if s ∈ [".nan", ".NaN", ".NAN"] then some (0.0 / 0.0)
  else none

/-- Reads a double. -/
def float? (s : String) : Option Float :=
  (specialFloat? s).or (Decimal.read? s.toList)

/-- Whether a scalar says that there is nothing. -/
def isNull (s : String) : Bool :=
  s ∈ ["~", "null", "Null", "NULL"]

/-- Reads a truth value. -/
def bool? (s : String) : Option Bool :=
  if s ∈ ["true", "True", "TRUE"] then some true
  else if s ∈ ["false", "False", "FALSE"] then some false
  else none

/-- Reads a double or else a text. -/
def floatOrText (s : String) : Datum :=
  match (if isZeroPadded s.toList then none else float? s) with
  | some x => .float x
  | none => .text s

/-- What a plain scalar says. -/
def plainDatum? (s : String) : Option Datum :=
  if s = "" ∨ isNull s then some .null
  else
    match bool? s with
    | some b => some (.bool b)
    | none =>
      match wholeNumber? s.toList with
      | some i =>
        if Word.fits 64 i then some (.int i)
        else if Word.fits 128 i then none
        else some (floatOrText s)
      | none => some (floatOrText s)

/-- What a scalar says that is not tagged, or has its local tag aside. -/
def untaggedDatum? (plain : Bool) (s : String) : Option Datum :=
  if plain then plainDatum? s else some (.text s)

/-- What a scalar says under a tag that is not local. -/
def standardDatum? (tag s : String) : Option Datum :=
  if tag = "tag:yaml.org,2002:bool" then (bool? s).map .bool
  else if tag = "tag:yaml.org,2002:int" then
    ((wholeNumber? s.toList).filter (Word.fits 64)).map .int
  else if tag = "tag:yaml.org,2002:float" then (float? s).map .float
  else if tag = "tag:yaml.org,2002:null" then (if isNull s then some .null else none)
  else some (.text s)

/-- The mark and the name of a tag, if it is local. The tag that is nothing but a mark has the mark
for its name. -/
def localTag? (tag : String) : Option String :=
  if tag = "!" then some "!!" else (Text.afterPrefix? "!" tag).map fun _ ↦ tag

/-- What a scalar says. -/
def scalarDatum? (tag : Option String) (plain : Bool) (s : String) : Option Datum :=
  match tag with
  | none => untaggedDatum? plain s
  | some tag =>
    match localTag? tag with
    | some shown => (untaggedDatum? plain s).map (.tagged shown)
    | none => standardDatum? tag s

/-! ### Numbers as text -/

/-- Doubles in YAML: an exponent from `1e16` up and below `1e-5`, and `.0` after a whole number. -/
def floatStyle : Decimal.Style where
  positional point := -5 < point && point ≤ 16
  pointZero := true
  infinity := ".inf"
  notANumber := ".nan"

/-- A number as text. -/
def numberText? : Datum → Option String
  | .int i => some (Text.ofInt i)
  | .float x => some (floatStyle.write x)
  | _ => none

end Manuscript.Yaml
