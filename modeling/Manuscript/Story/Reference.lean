import Manuscript.Story.Element
import Manuscript.Table

/-!
# Reference records

A reference record declares how a person, stage, item, word, event or time is called. Its file
name is the key by which texts refer to it.
-/

namespace Manuscript

/-- What a reference file declares. -/
structure NameFields where
  /-- The short display name. -/
  name : String
  /-- The full name, family and given name separated by a comma. -/
  fullname : String
  /-- How the person addresses others. -/
  calling : Table String
  /-- How the person says "I", if it is declared. -/
  me : Option String
  deriving DecidableEq

/-- The fields of a reference file that declares nothing. -/
def NameFields.empty : NameFields :=
  ⟨"", "", .empty, none⟩

/-- One reference file. -/
structure NameRecord where
  kind : NameKind
  /-- The file's name without its ending, which is the key in tags. -/
  basename : String
  fields : NameFields
  deriving DecidableEq

end Manuscript
