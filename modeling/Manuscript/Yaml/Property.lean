import Manuscript.Text.Number
import Manuscript.Yaml.Source
import Manuscript.Yaml.Token

/-!
# Anchors, tags and directives of YAML

The tokens that do not carry content. An anchor or alias has a name. A tag is written in full
between angle brackets, or as a handle with a suffix; `!` is the primary handle, and a tag that is
nothing but `!` has no handle. A directive stands on a line of its own in front of a document.
-/

namespace Manuscript.Yaml

/-- Whether a character may follow the name of an anchor or alias. -/
def mayFollowName : List Char → Bool
  | [] => true
  | c :: cs => endsWord (c :: cs) || "?:,]\x7d%@\x60".toList.contains c

/-- Reads the name of the anchor or alias whose mark is at a place. -/
def anchorName? (p : Cursor) : Option (String × Cursor) :=
  let (name, p) := (p.drop 1).span isWordChar
  if name.isEmpty || !mayFollowName p.rest then none else some (String.ofList name, p)

/-- Whether a character may stand in a tag. Some marks may only if the end of the tag is plain. -/
def isTagChar (delimited : Bool) (c : Char) : Bool :=
  isWordChar c || ";/?:@&=+$.%!~*'()".toList.contains c || (delimited && ",[]".toList.contains c)

/-- The bytes of a text in which some are written as a percent sign and two hexadecimal digits. -/
def percentBytes? : List Char → Option (List UInt8)
  | [] => some []
  | '%' :: a :: b :: cs => do
    let high ← Text.digitValue? a
    let low ← Text.digitValue? b
    some ((16 * high + low).toUInt8 :: (← percentBytes? cs))
  | '%' :: _ => none
  | c :: cs => (percentBytes? cs).map fun bytes ↦ c.toNat.toUInt8 :: bytes

/-- The text of a part of a tag. -/
def tagText? (cs : List Char) : Option String :=
  if '%' ∈ cs then do String.fromUTF8? ⟨(← percentBytes? cs).toArray⟩
  else some (String.ofList cs)

/-- Reads a handle up to the word characters behind its mark, and says whether a second mark closes
it. -/
def tagHandle (p : Cursor) : List Char × Bool × Cursor :=
  let (word, p) := (p.drop 1).span isWordChar
  match p.rest with
  | '!' :: _ => (word, true, p.drop 1)
  | _ => (word, false, p)

/-- Reads a tag in full, behind its opening angle bracket. -/
def fullTag? (p : Cursor) : Option (Token × Cursor) := do
  let (suffix, p) := p.span (isTagChar true)
  if suffix.isEmpty then none
  else
    match p.rest with
    | '>' :: _ => some (.tag "" (← tagText? suffix), p.drop 1)
    | _ => none

/-- Reads a tag with a handle. -/
def shortTag? (p : Cursor) : Option (Token × Cursor) := do
  let (word, closed, p) := tagHandle p
  let (suffix, p) := p.span (isTagChar false)
  if closed then
    if suffix.isEmpty then none
    else some (.tag (String.ofList ('!' :: (word ++ ['!']))) (← tagText? suffix), p)
  else
    let text ← tagText? suffix
    let whole := String.ofList word ++ text
    some (if whole = "" then .tag "" "!" else .tag "!" whole, p)

/-- Reads the tag whose mark is at a place. -/
def tagToken? (inFlow : Bool) (p : Cursor) : Option (Token × Cursor) := do
  let (token, p) ← match p.rest with
    | _ :: '<' :: _ => fullTag? (p.drop 2)
    | _ => shortTag? p
  if endsWord p.rest || (inFlow && p.rest.head? = some ',') then some (token, p) else none

/-- Reads a part of a version, of at most nine digits. -/
def versionPart? (p : Cursor) : Option (Nat × Cursor) := do
  let (digits, p) := p.span Text.isDigit
  if 9 < digits.length then none else some (← Text.digits? 10 digits, p)

/-- Reads the version behind a version directive's name. -/
def versionToken? (p : Cursor) : Option (Token × Cursor) := do
  let (major, p) ← versionPart? p.skipGap
  match p.rest with
  | '.' :: _ =>
    let (minor, p) ← versionPart? (p.drop 1)
    some (.version major minor, p)
  | _ => none

/-- Reads the handle and its expansion behind a tag directive's name. -/
def handleToken? (p : Cursor) : Option (Token × Cursor) := do
  let p := p.skipGap
  match p.rest with
  | '!' :: _ =>
    let (word, closed, p) := tagHandle p
    if (!closed && !word.isEmpty) || !(p.rest.head?.any isGap) then none
    else
      let (expansion, p) := p.skipGap.span (isTagChar true)
      if expansion.isEmpty || !endsWord p.rest then none
      else
        let handle := '!' :: (word ++ if closed then ['!'] else [])
        some (.tagHandle (String.ofList handle) (← tagText? expansion), p)
  | _ => none

/-- Reads the directive whose mark is at a place, with its line. -/
def directive? (p : Cursor) : Option (Token × Cursor) := do
  let (name, p) := (p.drop 1).span isWordChar
  if !endsWord p.rest then none
  else
    let (token, p) ←
      if name = "YAML".toList then versionToken? p
      else if name = "TAG".toList then handleToken? p
      else none
    some (token, ← p.endLine?)

end Manuscript.Yaml
