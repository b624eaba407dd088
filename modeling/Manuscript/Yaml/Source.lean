/-!
# Characters and places of a YAML text

A YAML text is read as a list of characters in which every line end is one character. The classes
below are those of the format, not those of `Text.isBlank`: inside a line only the space and the tab
are blank. A `Cursor` is a place in the text together with what follows it.
-/

namespace Manuscript.Yaml

/-- Whether a character may stand in a text at all. Of the control characters only the tab and the
line ends may. -/
def isAllowed (c : Char) : Bool :=
  let n := c.toNat
  n = 0x09 || n = 0x0A || n = 0x0D || n = 0x85 || (0x20 ≤ n && n ≤ 0x7E)
    || (0xA0 ≤ n && n ≤ 0xFFFD) || 0x10000 ≤ n

/-- The text with carriage returns and next-line characters made line feeds, where a carriage return
with its line feed is one line end. The line and the paragraph separator stay as they are. -/
def unifyBreaks : List Char → List Char
  | [] => []
  | '\r' :: '\n' :: cs => '\n' :: unifyBreaks cs
  | c :: cs => (if c = '\r' ∨ c.toNat = 0x85 then '\n' else c) :: unifyBreaks cs

/-- Whether a character ends a line. -/
def isBreak (c : Char) : Bool :=
  c = '\n' || c.toNat = 0x2028 || c.toNat = 0x2029

/-- Whether a character is blank inside a line. -/
def isGap (c : Char) : Bool :=
  c = ' ' || c = '\t'

/-- Whether a word ends in front of the text. -/
def endsWord : List Char → Bool
  | [] => true
  | c :: _ => isGap c || isBreak c

/-- Whether a character may stand in the name of an anchor or of a tag handle. -/
def isWordChar (c : Char) : Bool :=
  c.isAlphanum || c = '_' || c = '-'

/-- The marks that start and end a document, at the beginning of a line. -/
def documentMark? (cs : List Char) : Option Char :=
  match cs with
  | '-' :: '-' :: '-' :: rest => if endsWord rest then some '-' else none
  | '.' :: '.' :: '.' :: rest => if endsWord rest then some '.' else none
  | _ => none

/-- A place in a text. -/
structure Cursor where
  /-- What follows the place. -/
  rest : List Char
  line : Nat
  column : Nat
  deriving DecidableEq, Repr

namespace Cursor

/-- The place so many characters further in the line. -/
def drop (p : Cursor) (n : Nat) : Cursor :=
  { p with rest := p.rest.drop n, column := p.column + n }

/-- The characters in front that satisfy a condition, and the place behind them in the line. -/
def span (p : Cursor) (cond : Char → Bool) : List Char × Cursor :=
  let run := p.rest.takeWhile cond
  (run, p.drop run.length)

/-- The place behind blanks in the line. -/
def skipGap (p : Cursor) : Cursor :=
  (p.span isGap).2

/-- The place at the next line, if only blanks and a comment come before it. -/
def endLine? (p : Cursor) : Option Cursor :=
  let p := p.skipGap
  let p := match p.rest with
    | '#' :: _ => (p.span fun c ↦ !isBreak c).2
    | _ => p
  match p.rest with
  | [] => some p
  | c :: cs => if isBreak c then some ⟨cs, p.line + 1, 0⟩ else none

end Cursor

end Manuscript.Yaml
