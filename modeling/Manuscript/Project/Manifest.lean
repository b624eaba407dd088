import Manuscript.Error
import Manuscript.Story.Element
import Manuscript.Text.Blank
import Manuscript.Yaml.Read

/-!
# The order manifest

The manifest lists the elements of the book as a tree of references `kind/name`. They are read depth
first: a mapping's key before what lies under it. A key that is no reference is passed over together
with everything under it, and so is whatever is tagged or is not a text, a list or a mapping.
-/

namespace Manuscript

/-- A reference to an element of the book. -/
structure OrderEntry where
  element : Element
  /-- The name of the element's file without its ending. -/
  name : String
  deriving DecidableEq, Repr

namespace Manifest

/-- Reads a reference. The book itself is not listed, and a name must not be empty. -/
def reference? (text : String) : Option OrderEntry := do
  let (kind, name) ← Text.splitOnce "/" (Text.trim text)
  let element ← Element.ofText? kind
  if element = .book ∨ name = "" then none else some ⟨element, name⟩

mutual

/-- The references in a part of the manifest. -/
def collect : Datum → List OrderEntry
  | .list items => collectItems items
  | .text s => (reference? s).toList
  | .map entries => collectEntries entries
  | .null => []
  | .bool _ => []
  | .int _ => []
  | .float _ => []
  | .tagged _ _ => []

/-- The references in the items of a list. -/
def collectItems : List Datum → List OrderEntry
  | [] => []
  | d :: ds => collect d ++ collectItems ds

/-- The references in the entries of a mapping. -/
def collectEntries : List (Datum × Datum) → List OrderEntry
  | [] => []
  | (k, v) :: es =>
    (match k.keyText?.bind reference? with
      | some entry => entry :: collect v
      | none => []) ++ collectEntries es

end

/-- The key of the manifest's tree. -/
def rootKey : String := "book"

/-- The value under a key that is a text without a tag. -/
def valueAt? (key : String) (es : List (Datum × Datum)) : Option Datum :=
  (es.find? fun e ↦ e.1.text? = some key).map Prod.snd

/-- Reads a manifest. The path is for messages only. -/
def read (path text : String) : Except Error (List OrderEntry) :=
  match Yaml.read? text with
  | none => .error (.yamlParse path none)
  | some (.map es) =>
    match valueAt? rootKey es with
    | some d => .ok (collect d)
    | none => .error (.invalidOrder (path ++ ": missing 'book' key"))
  | some _ => .error (.invalidOrder (path ++ ": top level is not a mapping"))

end Manifest

end Manuscript
