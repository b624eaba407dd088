import Manuscript.Text.Number
import Manuscript.Yaml.Source

/-!
# Scalars of YAML

Plain and quoted scalars fold their lines: between two lines one line end becomes a space, and of
several the first is dropped. Blanks around a line end belong to it. What stands between two words
is collected in a `Gap` and put in only when the next word comes, so blanks behind a scalar are no
part of it.

Block scalars keep their lines. The indentation of the first line that is not blank, or the header,
fixes the margin, and the scalar ends at the first line that is not indented so far. A folded block
scalar joins two lines unless one of them starts with a blank.

All readers take the text one character at a time and keep what they have read in reverse.
-/

namespace Manuscript.Yaml

/-- What was read between two words of a scalar. -/
structure Gap where
  /-- Whether a line ended. -/
  broken : Bool
  /-- Blanks in front of the first line end, in reverse. -/
  blanks : List Char
  /-- The first line end. -/
  first : List Char
  /-- Further line ends, in reverse. -/
  more : List Char
  deriving DecidableEq, Repr

namespace Gap

/-- Nothing read. -/
def none : Gap := ⟨false, [], [], []⟩

/-- A line end that leaves no trace. -/
def escaped : Gap := ⟨true, [], [], []⟩

/-- The gap with another blank. Blanks behind a line end leave no trace. -/
def addBlank (g : Gap) (c : Char) : Gap :=
  if g.broken then g else { g with blanks := c :: g.blanks }

/-- The gap with another line end. Blanks in front of it are dropped. -/
def addBreak (g : Gap) (c : Char) : Gap :=
  if g.broken then { g with more := c :: g.more } else ⟨true, [], [c], []⟩

/-- Whether nothing was read. -/
def isNone (g : Gap) : Bool :=
  !g.broken && g.blanks.isEmpty

/-- What a gap leaves in the scalar, in reverse. -/
def folded (g : Gap) : List Char :=
  if g.broken then
    if g.first = ['\n'] then (if g.more.isEmpty then [' '] else g.more)
    else g.more ++ g.first
  else g.blanks

end Gap

/-! ### Plain scalars -/

/-- Where plain scalars may stand. -/
structure PlainContext where
  /-- Inside a flow collection. -/
  inFlow : Bool
  /-- The first column that a further line of the scalar may start at, outside of flow
  collections. -/
  margin : Nat
  deriving DecidableEq, Repr

/-- Characters that structure a flow collection. -/
def isFlowMark (c : Char) : Bool :=
  c = ',' || c = '[' || c = ']' || c = '\x7b' || c = '\x7d'

/-- Whether a plain scalar ends in front of a character, given what follows the character. -/
def endsPlain (inFlow : Bool) (c : Char) (rest : List Char) : Bool :=
  (c = ':' && endsWord rest) || (inFlow && isFlowMark c)

/-- Whether a plain scalar ends in front of the word after a gap. -/
def endsAfterGap (ctx : PlainContext) (column : Nat) (cs : List Char) : Bool :=
  (!ctx.inFlow && column < ctx.margin) || (column = 0 && (documentMark? cs).isSome)
    || cs.head? = some '#'

/-- Whether a colon stands directly in front of a mark of a flow collection. -/
def isStrayColon (c : Char) (rest : List Char) : Bool :=
  c = ':' && (rest.head?.any fun d ↦ d = '?' || isFlowMark d)

/-- What a plain scalar has been read to: its text, whether a line ended behind it, and the place
behind that. -/
structure PlainScalar where
  text : String
  broken : Bool
  cursor : Cursor

/-- Reads a plain scalar on from the text read so far and the gap behind it. -/
def plainFrom (ctx : PlainContext) (acc : List Char) (gap : Gap) (line column : Nat) :
    List Char → Option PlainScalar
  | [] => some ⟨String.ofList acc.reverse, gap.broken, ⟨[], line, column⟩⟩
  | c :: cs =>
    if isBreak c then plainFrom ctx acc (gap.addBreak c) (line + 1) 0 cs
    else if isGap c then
      if gap.broken && column < ctx.margin && c = '\t' then none
      else plainFrom ctx acc (gap.addBlank c) line (column + 1) cs
    else if !gap.isNone && endsAfterGap ctx column (c :: cs) then
      some ⟨String.ofList acc.reverse, gap.broken, ⟨c :: cs, line, column⟩⟩
    else if ctx.inFlow && isStrayColon c cs then none
    else if endsPlain ctx.inFlow c cs then
      some ⟨String.ofList acc.reverse, gap.broken, ⟨c :: cs, line, column⟩⟩
    else plainFrom ctx (c :: (gap.folded ++ acc)) .none line (column + 1) cs

/-- Reads the plain scalar at a place. -/
def plainScalar? (ctx : PlainContext) (p : Cursor) : Option PlainScalar :=
  plainFrom ctx [] .none p.line p.column p.rest

/-! ### Quoted scalars -/

/-- The character that an escape of one letter stands for. -/
def escapeOf? (c : Char) : Option Char :=
  match c with
  | '0' => some (Char.ofNat 0)
  | 'a' => some (Char.ofNat 7)
  | 'b' => some (Char.ofNat 8)
  | 't' => some '\t'
  | '\t' => some '\t'
  | 'n' => some '\n'
  | 'v' => some (Char.ofNat 11)
  | 'f' => some (Char.ofNat 12)
  | 'r' => some '\r'
  | 'e' => some (Char.ofNat 27)
  | ' ' => some ' '
  | '"' => some '"'
  | '/' => some '/'
  | '\\' => some '\\'
  | 'N' => some (Char.ofNat 0x85)
  | '_' => some (Char.ofNat 0xA0)
  | 'L' => some (Char.ofNat 0x2028)
  | 'P' => some (Char.ofNat 0x2029)
  | _ => none

/-- The number of hexadecimal digits behind the letter of an escape. -/
def escapeWidth? (c : Char) : Option Nat :=
  match c with
  | 'x' => some 2
  | 'u' => some 4
  | 'U' => some 8
  | _ => none

/-- The character with a code, unless the code is one half of a surrogate pair or too large. -/
def charOfCode? (n : Nat) : Option Char :=
  if h : n.isValidChar then some (Char.ofNatAux n h) else none

/-- What the next character of a quoted scalar belongs to. -/
inductive QuotedMode where
  | text
  /-- A quote was read in single quotes; it ends the scalar unless another one follows. -/
  | quote
  /-- A backslash was read. -/
  | escape
  /-- So many digits of a code are to come. -/
  | code (left value : Nat)
  deriving DecidableEq, Repr

/-- Reads a quoted scalar on. -/
def quotedFrom (double : Bool) (mode : QuotedMode) (acc : List Char) (gap : Gap)
    (line column : Nat) : List Char → Option (String × Cursor)
  | [] => if mode = .quote then some (String.ofList acc.reverse, ⟨[], line, column⟩) else none
  | c :: cs =>
    match mode with
    | .text =>
      if isBreak c then quotedFrom double .text acc (gap.addBreak c) (line + 1) 0 cs
      else if isGap c then quotedFrom double .text acc (gap.addBlank c) line (column + 1) cs
      else if column = 0 && (documentMark? (c :: cs)).isSome then none
      else if c = '"' && double then
        some (String.ofList (gap.folded ++ acc).reverse, ⟨cs, line, column + 1⟩)
      else if c = '\\' && double then
        quotedFrom double .escape (gap.folded ++ acc) .none line (column + 1) cs
      else if c = '\'' && !double then
        quotedFrom double .quote (gap.folded ++ acc) .none line (column + 1) cs
      else quotedFrom double .text (c :: (gap.folded ++ acc)) .none line (column + 1) cs
    | .quote =>
      if c = '\'' then quotedFrom double .text (c :: acc) gap line (column + 1) cs
      else some (String.ofList acc.reverse, ⟨c :: cs, line, column⟩)
    | .escape =>
      if isBreak c then quotedFrom double .text acc .escaped (line + 1) 0 cs
      else
        match escapeWidth? c with
        | some width => quotedFrom double (.code width 0) acc gap line (column + 1) cs
        | none =>
          match escapeOf? c with
          | some d => quotedFrom double .text (d :: acc) gap line (column + 1) cs
          | none => none
    | .code left value =>
      match Text.digitValue? c with
      | none => none
      | some digit =>
        let value := 16 * value + digit
        if 1 < left then quotedFrom double (.code (left - 1) value) acc gap line (column + 1) cs
        else
          match charOfCode? value with
          | some d => quotedFrom double .text (d :: acc) gap line (column + 1) cs
          | none => none

/-- Reads the quoted scalar whose opening quote is at a place. -/
def quotedScalar? (double : Bool) (p : Cursor) : Option (String × Cursor) :=
  let p := p.drop 1
  quotedFrom double .text [] .none p.line p.column p.rest

/-! ### Block scalars -/

/-- What becomes of the line ends behind a block scalar. -/
inductive Chomp where
  /-- All are dropped. -/
  | strip
  /-- The first is kept. -/
  | clip
  /-- All are kept. -/
  | keep
  deriving DecidableEq, Repr

/-- The header of a block scalar. -/
structure BlockHeader where
  chomp : Chomp
  /-- The columns that the margin is further in than the collection, if they are given. -/
  increment : Option Nat
  deriving DecidableEq, Repr

/-- Reads a chomping mark. -/
def chompMark? (cs : List Char) : Option (Chomp × Nat) :=
  match cs with
  | '+' :: _ => some (.keep, 1)
  | '-' :: _ => some (.strip, 1)
  | _ => none

/-- Reads an indentation mark, which is a digit but not zero. -/
def incrementMark? (cs : List Char) : Option (Nat × Nat) :=
  match cs with
  | c :: _ => if Text.isDigit c then some (c.toNat - 48, 1) else none
  | [] => none

/-- Reads the header behind its first character, up to the end of the line. The two marks stand in
any order. -/
def blockHeader? (p : Cursor) : Option (BlockHeader × Cursor) := do
  let first := chompMark? p.rest
  let p := p.drop ((first.map Prod.snd).getD 0)
  let increment := incrementMark? p.rest
  let p := p.drop ((increment.map Prod.snd).getD 0)
  let second := if first.isNone && increment.isSome then chompMark? p.rest else none
  let p := p.drop ((second.map Prod.snd).getD 0)
  if (increment.map Prod.fst) = some 0 then none
  else
    let chomp := ((first.or second).map Prod.fst).getD .clip
    some (⟨chomp, increment.map Prod.fst⟩, ← p.endLine?)

/-- The text of a block scalar as far as it is read. -/
structure BlockText where
  /-- Whether lines are kept as they are, and not folded. -/
  literal : Bool
  /-- The text in reverse. -/
  acc : List Char
  /-- The end of the last line. -/
  last : List Char
  /-- Line ends of empty lines behind it, in reverse. -/
  breaks : List Char
  /-- Whether the last line starts with a blank. -/
  lastBlank : Bool
  deriving DecidableEq, Repr

namespace BlockText

/-- The line ends in front of a new line, in reverse. -/
def joint (b : BlockText) (startsBlank : Bool) : List Char :=
  if !b.literal && b.last = ['\n'] && !b.lastBlank && !startsBlank then
    (if b.breaks.isEmpty then [' '] else b.breaks)
  else b.breaks ++ b.last

/-- The text with a new line opened by a character. -/
def openLine (b : BlockText) (c : Char) : BlockText :=
  { b with
    acc := c :: (b.joint (isGap c) ++ b.acc), last := [], breaks := [], lastBlank := isGap c }

/-- The text with its tail chomped. -/
def finish (b : BlockText) (chomp : Chomp) : String :=
  let tail := match chomp with
    | .strip => []
    | .clip => b.last
    | .keep => b.breaks ++ b.last
  String.ofList (tail ++ b.acc).reverse

end BlockText

/-- Where the reader of a block scalar stands in a line. -/
inductive BlockMode where
  /-- In the indentation. -/
  | margin
  /-- In the text. -/
  | content
  deriving DecidableEq, Repr

/-- Reads a block scalar on. The margin is `none` as long as no line has fixed it; then `widest` is
the deepest indentation so far and `least` the least margin there may be. -/
def blockFrom (least : Nat) (mode : BlockMode) (margin : Option Nat) (widest : Nat) (b : BlockText)
    (line column : Nat) : List Char → Option (BlockText × Cursor)
  | [] => some (b, ⟨[], line, column⟩)
  | c :: cs =>
    match mode with
    | .content =>
      if isBreak c then
        blockFrom least .margin margin widest { b with last := [c] } (line + 1) 0 cs
      else
        blockFrom least .content margin widest { b with acc := c :: b.acc } line (column + 1) cs
    | .margin =>
      let indenting := margin.all fun m ↦ column < m
      if indenting && c = ' ' then
        blockFrom least .margin margin widest b line (column + 1) cs
      else if indenting && c = '\t' then none
      else if isBreak c then
        blockFrom least .margin margin (max widest column) { b with breaks := c :: b.breaks }
          (line + 1) 0 cs
      else
        let m := margin.getD (max (max widest column) least)
        if column = m then
          blockFrom least .content (some m) widest (b.openLine c) line (column + 1) cs
        else some (b, ⟨c :: cs, line, column⟩)

/-- Reads the block scalar whose first character is at a place, in a collection that is indented by
`indent`, which is `-1` outside of all collections. -/
def blockScalar? (literal : Bool) (indent : Int) (p : Cursor) : Option (String × Cursor) := do
  let (header, p) ← blockHeader? (p.drop 1)
  let margin := header.increment.map fun n ↦ indent.toNat + n
  let least := max (indent + 1).toNat 1
  let start : BlockText := ⟨literal, [], [], [], false⟩
  let (b, p) ← blockFrom least .margin margin 0 start p.line p.column p.rest
  some (b.finish header.chomp, p)

end Manuscript.Yaml
