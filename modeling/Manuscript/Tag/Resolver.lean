import Manuscript.Tag.Names
import Manuscript.Tag.Substitute

/-!
# Resolving tags

A resolver holds the tag table, the calling tables and the sigil. A subject that is a key is shown
by its name. In a text, references are substituted by the tag table; what a person says or does uses
the tag table overlaid by that person's calling table.
-/

namespace Manuscript

/-- The tables that turn tags into names. -/
structure Resolver where
  tags : Table String
  callings : Table (Table String)
  sigil : String
  deriving DecidableEq

namespace Resolver

/-- The resolver that knows no names. -/
def empty : Resolver := ⟨.empty, .empty, ""⟩

/-- The resolver of loaded reference material. -/
def build (sources : NameSources) (settings : TagSettings) : Resolver :=
  ⟨Tag.tagTable sources settings, Tag.callingTable sources settings, settings.sigil⟩

/-- A text with its references substituted by the tag table. -/
def plain (r : Resolver) (text : String) : String :=
  Tag.substitute r.sigil r.tags text

/-- The table for texts of a subject: the tag table, overlaid by the subject's calling table if
the subject is a person. The terms of address may themselves refer to tags. -/
def tableFor (r : Resolver) (subject : String) : Table String :=
  match r.callings.get? subject with
  | some calling => r.tags.extend (calling.map r.plain)
  | none => r.tags

/-- A subject as it is shown. -/
def subject (r : Resolver) (subject : String) : String :=
  (r.tags.get? subject).getD (r.plain subject)

/-- A text of a subject as it is shown. -/
def text (r : Resolver) (subject text : String) : String :=
  Tag.substitute r.sigil (r.tableFor subject) text

/-- Whether a key names a known person. -/
def isPerson (r : Resolver) (key : String) : Bool :=
  r.callings.contains key

end Resolver

end Manuscript
