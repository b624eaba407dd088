import Manuscript.Story.Reference
import Manuscript.Text.Blank
import Manuscript.Text.Split

/-!
# Tag tables from reference material

The flat tag table maps every key by which a text may refer to something to its display name. It is
built by registering records, the names of times, fixed terms and mobs in this order, and a later
registration takes the place of an earlier one with the same key. A mob also registers numbered
copies of itself, written with full-width digits. The calling table says for every person how that
person addresses others and names itself.
-/

namespace Manuscript

/-- What the tag tables are built from. -/
structure NameSources where
  records : List NameRecord
  /-- Names of minor characters. -/
  mobs : Table String
  /-- Names of fixed terms. -/
  fixtures : Table String
  deriving DecidableEq

/-- How the tag tables are built and used. -/
structure TagSettings where
  /-- The number of numbered copies of every mob. -/
  mobCount : Nat
  /-- How a person says "I" who does not declare it. -/
  selfReference : String
  /-- The mark in front of a reference. -/
  sigil : String
  deriving DecidableEq, Repr

namespace Tag

/-- The full-width form of an ASCII digit; any other character stands for itself. -/
def fullWidthDigit (c : Char) : Char :=
  if '0' ≤ c ∧ c ≤ '9' then Char.ofNat (c.toNat - 48 + 0xFF10) else c

/-- The text with its ASCII digits in full-width form. -/
def fullWidthDigits (s : String) : String :=
  String.ofList (s.toList.map fullWidthDigit)

/-- The name under which a record is shown: its own name, or its key if that is blank. -/
def displayName (r : NameRecord) : String :=
  let name := Text.trim r.fields.name
  if name = "" then r.basename else name

/-- A person's family and given name. Without a comma in the full name the display name is the given
name. -/
def familyAndGiven (r : NameRecord) : String × String :=
  match Text.splitOnce "," r.fields.fullname with
  | some (family, given) => (Text.trim family, Text.trim given)
  | none => ("", displayName r)

/-- The keys that a person registers besides those of every record: given name, family name, and the
full name in both orders. -/
def personEntries (r : NameRecord) : List (String × String) :=
  let (family, given) := familyAndGiven r
  [("fn_" ++ r.basename, given), ("ln_" ++ r.basename, family),
   ("full_" ++ r.basename, family ++ given),
   ("efull_" ++ r.basename, if family = "" then given else given ++ " " ++ family)]

/-- What a record registers. -/
def recordEntries (r : NameRecord) : List (String × String) :=
  let name := displayName r
  (r.kind.tagMark?.map fun mark ↦ (mark ++ r.basename, name)).toList
    ++ (if r.kind = .person then personEntries r else [])
    ++ [(r.basename, name)]

/-- The kinds in the order in which their records are registered. -/
def registrationOrder : List NameKind := [.event, .item, .person, .stage, .word, .time]

/-- A numbered copy of a mob. -/
def mobCopy (key name : String) (i : Nat) : String × String :=
  (key ++ Nat.repr i, name ++ fullWidthDigits (Nat.repr i))

/-- What a mob registers: itself, and its copies from the first to the last. -/
def mobEntries (count : Nat) (key name : String) : List (String × String) :=
  (key, name) :: (List.range count).map fun i ↦ mobCopy key name (i + 1)

/-- Everything that is registered, in order. -/
def registrations (sources : NameSources) (settings : TagSettings) : List (String × String) :=
  (registrationOrder.flatMap fun kind ↦
      (sources.records.filter fun r ↦ r.kind = kind).flatMap recordEntries)
    ++ sources.fixtures.toList
    ++ sources.mobs.toList.flatMap fun m ↦ mobEntries settings.mobCount m.1 m.2

/-- The flat tag table. -/
def tagTable (sources : NameSources) (settings : TagSettings) : Table String :=
  .ofList (registrations sources settings)

/-- How a person addresses others, with `S` for the person's own name and `M` for how the person
says "I". -/
def callingOf (settings : TagSettings) (r : NameRecord) : Table String :=
  (r.fields.calling.insert "S" (displayName r)).insert "M"
    (r.fields.me.getD settings.selfReference)

/-- The calling tables of all persons. -/
def callingTable (sources : NameSources) (settings : TagSettings) : Table (Table String) :=
  .ofList ((sources.records.filter fun r ↦ r.kind = .person).map fun r ↦
    (r.basename, callingOf settings r))

end Tag

end Manuscript
