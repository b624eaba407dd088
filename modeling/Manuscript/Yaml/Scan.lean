import Manuscript.Yaml.Property
import Manuscript.Yaml.Scalar

/-!
# From text to tokens

The tokens of a text are read from left to right. Block collections are opened by an entry further
in than the enclosing collection, and are closed as soon as something stands further out.

A mapping's key is told only by the colon behind it, so a place where a key may have started is
remembered (`KeyMark`). When the colon comes, the tokens of the key and of its mapping are put in
front of what was read since. A key that is not followed by its colon in the same line, within 1024
characters, is none; where a key has to stand, because its collection could not go on otherwise,
that is an error. Every level of flow collections remembers a place of its own.
-/

namespace Manuscript.Yaml

/-- A place where a key may have started. -/
structure KeyMark where
  /-- Whether only a key can stand here. -/
  required : Bool
  /-- The number of tokens in front of it. -/
  position : Nat
  line : Nat
  column : Nat
  deriving DecidableEq, Repr

/-- Whether a colon at the cursor is too far behind the place. -/
def KeyMark.isStale (k : KeyMark) (p : Cursor) : Bool :=
  k.line < p.line || k.column + 1024 < p.column

/-- What is known at a place of a text. -/
structure Scanner where
  cursor : Cursor
  /-- The tokens read so far, the last one first. -/
  tokens : List Token
  /-- The column of the current block collection, or `-1` outside of all. -/
  indent : Int
  /-- The columns of the enclosing collections, from the inside. -/
  outer : List Int
  /-- Whether a key may start here. -/
  keyAllowed : Bool
  /-- Where a key may have started at the current level of flow collections. -/
  keyMark : Option KeyMark
  /-- The same for the enclosing levels, from the inside. -/
  outerMarks : List (Option KeyMark)
  deriving Repr

namespace Scanner

/-- The scanner at the beginning of a text. -/
def start (p : Cursor) : Scanner :=
  { cursor := p, tokens := [], indent := -1, outer := [], keyAllowed := true, keyMark := none
    outerMarks := [] }

/-- Whether the place is inside a flow collection. -/
def inFlow (s : Scanner) : Bool :=
  !s.outerMarks.isEmpty

/-- The scanner with another token. -/
def emit (s : Scanner) (t : Token) : Scanner :=
  { s with tokens := t :: s.tokens }

/-- The scanner with a token of so many characters read. -/
def take (s : Scanner) (width : Nat) (t : Token) : Scanner :=
  { s.emit t with cursor := s.cursor.drop width }

/-- The scanner with a token put behind the given number of tokens. -/
def insertToken (s : Scanner) (position : Nat) (t : Token) : Scanner :=
  let later := s.tokens.length - position
  { s with tokens := s.tokens.take later ++ t :: s.tokens.drop later }

/-! ### Indentation -/

/-- Opens a block collection behind the given number of tokens, unless one at least as far in is
open. -/
def openBlock (s : Scanner) (column : Nat) (position : Nat) (t : Token) : Scanner :=
  if s.inFlow then s
  else if s.indent < column then
    { s.insertToken position t with indent := column, outer := s.indent :: s.outer }
  else s

/-- Closes collections from the inside as long as they are further in than the column. -/
def closeBlocksFrom (column : Int) : Int → List Int → List Token → Int × List Int × List Token
  | indent, [], tokens => (indent, [], tokens)
  | indent, next :: outer, tokens =>
    if column < indent then closeBlocksFrom column next outer (.blockEnd :: tokens)
    else (indent, next :: outer, tokens)

/-- Closes the block collections that are further in than the column. -/
def closeBlocks (s : Scanner) (column : Int) : Scanner :=
  if s.inFlow then s
  else
    let (indent, outer, tokens) := closeBlocksFrom column s.indent s.outer s.tokens
    { s with indent := indent, outer := outer, tokens := tokens }

/-! ### Keys -/

/-- Forgets the place where a key may have started, unless a key has to stand there. -/
def dropKey? (s : Scanner) : Option Scanner :=
  if s.keyMark.any KeyMark.required then none else some { s with keyMark := none }

/-- Remembers the place as one where a key may have started, if one may. -/
def markKey? (s : Scanner) : Option Scanner :=
  if s.keyAllowed then do
    let s ← s.dropKey?
    some { s with
      keyMark := some
        { required := !s.inFlow && s.indent = s.cursor.column
          position := s.tokens.length, line := s.cursor.line, column := s.cursor.column } }
  else some s

/-- The mark, unless it is stale. A stale mark where a key has to stand is an error. -/
def freshMark? (p : Cursor) : Option KeyMark → Option (Option KeyMark)
  | some k => if k.isStale p then (if k.required then none else some none) else some (some k)
  | none => some none

/-- Forgets the places that are too far back. -/
def dropStale? (s : Scanner) : Option Scanner := do
  some { s with
    outerMarks := ← s.outerMarks.mapM (freshMark? s.cursor)
    keyMark := ← freshMark? s.cursor s.keyMark }

/-! ### Blanks -/

/-- Skips blanks, comments and line ends. At a new line outside of flow collections a key may start,
and there a tab is not skipped. -/
def skipFrom (inFlow inComment allowed : Bool) (line column : Nat) : List Char → Bool × Cursor
  | [] => (allowed, ⟨[], line, column⟩)
  | c :: cs =>
    if isBreak c then skipFrom inFlow false (allowed || !inFlow) (line + 1) 0 cs
    else if inComment || c = ' ' || (c = '\t' && (inFlow || !allowed)) then
      skipFrom inFlow inComment allowed line (column + 1) cs
    else if c = '#' then skipFrom inFlow true allowed line (column + 1) cs
    else (allowed, ⟨c :: cs, line, column⟩)

/-- Skips blanks, comments and line ends. -/
def skip (s : Scanner) : Scanner :=
  let (allowed, p) :=
    skipFrom s.inFlow false s.keyAllowed s.cursor.line s.cursor.column s.cursor.rest
  { s with keyAllowed := allowed, cursor := p }

/-- The scanner at the next token, with everything closed that ends in front of it. -/
def approach? (s : Scanner) : Option Scanner := do
  let s ← s.skip.dropStale?
  some (s.closeBlocks s.cursor.column)

/-! ### Tokens -/

/-- Reads a directive. -/
def directive? (s : Scanner) : Option Scanner := do
  let s ← (s.closeBlocks (-1)).dropKey?
  let (t, p) ← Yaml.directive? s.cursor
  some { s.emit t with cursor := p, keyAllowed := false }

/-- Reads the mark of a document. -/
def documentMark? (s : Scanner) (t : Token) : Option Scanner := do
  let s ← (s.closeBlocks (-1)).dropKey?
  some { s.take 3 t with keyAllowed := false }

/-- Opens a flow collection. -/
def openFlow? (s : Scanner) (t : Token) : Option Scanner := do
  let s ← s.markKey?
  some { s.take 1 t with
    keyAllowed := true, keyMark := none, outerMarks := s.keyMark :: s.outerMarks }

/-- Closes a flow collection. -/
def closeFlow? (s : Scanner) (t : Token) : Option Scanner := do
  let s ← s.dropKey?
  let s := { s.take 1 t with keyAllowed := false }
  match s.outerMarks with
  | [] => some s
  | mark :: outer => some { s with keyMark := mark, outerMarks := outer }

/-- Reads a comma. -/
def flowEntry? (s : Scanner) : Option Scanner := do
  let s ← s.dropKey?
  some { s.take 1 .flowEntry with keyAllowed := true }

/-- Opens a block collection at the cursor for a token that may stand only where a key may start. -/
def openHere? (s : Scanner) (t : Token) : Option Scanner :=
  if s.inFlow then some s
  else if s.keyAllowed then some (s.openBlock s.cursor.column s.tokens.length t)
  else none

/-- Reads the dash of an entry. -/
def blockEntry? (s : Scanner) : Option Scanner := do
  let s ← (← s.openHere? .blockSequenceStart).dropKey?
  some { s.take 1 .blockEntry with keyAllowed := true }

/-- Reads the question mark of a key. -/
def explicitKey? (s : Scanner) : Option Scanner := do
  let s ← (← s.openHere? .blockMappingStart).dropKey?
  some { s.take 1 .key with keyAllowed := !s.inFlow }

/-- Reads the colon of a value. If a key may have started in front of it, it did. -/
def value? (s : Scanner) : Option Scanner := do
  match s.keyMark with
  | some k =>
    let s := (s.insertToken k.position .key).openBlock k.column k.position .blockMappingStart
    some { s.take 1 .value with keyMark := none, keyAllowed := false }
  | none =>
    let s ← s.openHere? .blockMappingStart
    some { s.take 1 .value with keyAllowed := !s.inFlow }

/-- Reads an anchor or an alias. -/
def anchor? (s : Scanner) (token : String → Token) : Option Scanner := do
  let s ← s.markKey?
  let (name, p) ← anchorName? s.cursor
  some { s.emit (token name) with cursor := p, keyAllowed := false }

/-- Reads a tag. -/
def tag? (s : Scanner) : Option Scanner := do
  let s ← s.markKey?
  let (t, p) ← tagToken? s.inFlow s.cursor
  some { s.emit t with cursor := p, keyAllowed := false }

/-- Reads a block scalar, which is never a key. -/
def blockScalar? (s : Scanner) (literal : Bool) : Option Scanner := do
  let s ← s.dropKey?
  let (text, p) ← Yaml.blockScalar? literal s.indent s.cursor
  some { s.emit (.scalar false text) with cursor := p, keyAllowed := true }

/-- Reads a quoted scalar. -/
def quotedScalar? (s : Scanner) (double : Bool) : Option Scanner := do
  let s ← s.markKey?
  let (text, p) ← Yaml.quotedScalar? double s.cursor
  some { s.emit (.scalar false text) with cursor := p, keyAllowed := false }

/-- Reads a plain scalar. A key may start behind it if a line ended there. -/
def plainScalar? (s : Scanner) : Option Scanner := do
  let s ← s.markKey?
  let scalar ← Yaml.plainScalar? ⟨s.inFlow, (s.indent + 1).toNat⟩ s.cursor
  some { s.emit (.scalar true scalar.text) with
    cursor := scalar.cursor, keyAllowed := scalar.broken }

/-- Whether a plain scalar may start with a character that is no token of its own. -/
def startsPlain (c : Char) : Bool :=
  !(isGap c || isBreak c || isFlowMark c || "#&*!|>'\"%@\x60".toList.contains c)

/-- Reads the token at the cursor, which starts with a character and what follows it. -/
def next? (s : Scanner) (c : Char) (rest : List Char) : Option Scanner :=
  let atMargin := s.cursor.column = 0
  let mark := if atMargin then Yaml.documentMark? (c :: rest) else none
  if atMargin && c = '%' then s.directive?
  else if mark = some '-' then s.documentMark? .documentStart
  else if mark = some '.' then s.documentMark? .documentEnd
  else if c = '[' then s.openFlow? .flowSequenceStart
  else if c = '\x7b' then s.openFlow? .flowMappingStart
  else if c = ']' then s.closeFlow? .flowSequenceEnd
  else if c = '\x7d' then s.closeFlow? .flowMappingEnd
  else if c = ',' then s.flowEntry?
  else if c = '-' && endsWord rest then s.blockEntry?
  else if c = '?' && (s.inFlow || endsWord rest) then s.explicitKey?
  else if c = ':' && (s.inFlow || endsWord rest) then s.value?
  else if c = '*' then s.anchor? .alias
  else if c = '&' then s.anchor? .anchor
  else if c = '!' then s.tag?
  else if c = '|' && !s.inFlow then s.blockScalar? true
  else if c = '>' && !s.inFlow then s.blockScalar? false
  else if c = '\'' then s.quotedScalar? false
  else if c = '"' then s.quotedScalar? true
  else if startsPlain c then s.plainScalar?
  else none

/-- The tokens of a text that ends at the cursor. -/
def finish? (s : Scanner) : Option (List Token) := do
  let s ← (s.closeBlocks (-1)).dropKey?
  some (s.emit .streamEnd).tokens.reverse

/-- Reads on to the end of the text. Every token takes at least one character, so as many steps as
there are characters suffice. -/
def run? : Nat → Scanner → Option (List Token)
  | 0, _ => none
  | steps + 1, s => do
    let s ← s.approach?
    match s.cursor.rest with
    | [] => s.finish?
    | c :: rest => run? steps (← s.next? c rest)

end Scanner

/-- The place where the reading of a text begins. A byte order mark takes up the first column. -/
def startCursor : List Char → Cursor
  | '\ufeff' :: cs => ⟨cs, 0, 1⟩
  | cs => ⟨cs, 0, 0⟩

/-- The tokens of a text. -/
def tokens? (text : List Char) : Option (List Token) :=
  if text.all isAllowed then
    let p := startCursor (unifyBreaks text)
    (Scanner.start p).run? (text.length + 1)
  else none

end Manuscript.Yaml
