/-!
# Tokens of YAML

The tokens say where collections start and end. Those of block collections have no character of
their own: they follow from the indentation.
-/

namespace Manuscript.Yaml

/-- A token of a YAML text. -/
inductive Token where
  | streamEnd
  | version (major minor : Nat)
  | tagHandle (handle expansion : String)
  | documentStart
  | documentEnd
  | blockSequenceStart
  | blockMappingStart
  | blockEnd
  | flowSequenceStart
  | flowSequenceEnd
  | flowMappingStart
  | flowMappingEnd
  | blockEntry
  | flowEntry
  | key
  | value
  | anchor (name : String)
  | alias (name : String)
  | tag (handle suffix : String)
  /-- A scalar, which is plain if it has neither quotes nor a block header. -/
  | scalar (plain : Bool) (text : String)
  deriving DecidableEq, Repr

end Manuscript.Yaml
