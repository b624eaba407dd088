import Manuscript.Datum.Basic

/-!
# JSON text

A datum is printed as JSON on one line (`compact`) or with two blanks of indent for each level and
one entry a line (`pretty`). Characters outside ASCII stand for themselves. Numbers that are not
finite have no JSON form and are printed as `null`; a key that is not a text is printed as its
scalar text; tags are not printed.
-/

namespace Manuscript.Datum

/-- A small hexadecimal digit. -/
def hexDigit (n : Nat) : Char :=
  Nat.digitChar (n % 16)

/-- A character inside quotes. -/
def jsonChar (c : Char) : List Char :=
  if c = '"' then ['\\', '"']
  else if c = '\\' then ['\\', '\\']
  else if c = '\n' then ['\\', 'n']
  else if c = '\r' then ['\\', 'r']
  else if c = '\t' then ['\\', 't']
  else if c.toNat = 8 then ['\\', 'b']
  else if c.toNat = 12 then ['\\', 'f']
  else if c.toNat < 32 then ['\\', 'u', '0', '0', hexDigit (c.toNat / 16), hexDigit c.toNat]
  else [c]

/-- A text in quotes. -/
def jsonText (s : String) : String :=
  String.ofList ('"' :: (s.toList.flatMap jsonChar ++ ['"']))

/-- Doubles in JSON: an exponent from `1e16` up and below `1e-5`, and `.0` after a whole number. -/
def jsonFloat : Decimal.Style where
  positional point := -5 < point && point ≤ 16
  pointZero := true
  infinity := "null"
  notANumber := "null"

/-- The text of a key. -/
def jsonKey (d : Datum) : String :=
  jsonText ((d.untag.scalarText?).getD "")

mutual

/-- JSON on one line. -/
def compact : Datum → String
  | null => "null"
  | bool b => boolText b
  | int i => Text.ofInt i
  | float x => if x.isFinite then jsonFloat.write x else "null"
  | text s => jsonText s
  | list items => "[" ++ compactItems items ++ "]"
  | map entries => "\x7b" ++ compactEntries entries ++ "\x7d"
  | tagged _ d => compact d

/-- The items of a list, separated by commas. -/
def compactItems : List Datum → String
  | [] => ""
  | [d] => compact d
  | d :: ds => compact d ++ "," ++ compactItems ds

/-- The entries of a mapping, separated by commas. -/
def compactEntries : List (Datum × Datum) → String
  | [] => ""
  | [(k, v)] => jsonKey k ++ ":" ++ compact v
  | (k, v) :: es => jsonKey k ++ ":" ++ compact v ++ "," ++ compactEntries es

end

/-- A line end followed by the indent of a level. -/
def newline (level : Nat) : String :=
  String.ofList ('\n' :: List.replicate (2 * level) ' ')

mutual

/-- JSON with one entry a line, for a datum that starts at a level of indent. -/
def prettyAt (level : Nat) : Datum → String
  | list [] => "[]"
  | list (d :: ds) => "[" ++ prettyItems (level + 1) (d :: ds) ++ newline level ++ "]"
  | map [] => "\x7b\x7d"
  | map (e :: es) => "\x7b" ++ prettyEntries (level + 1) (e :: es) ++ newline level ++ "\x7d"
  | tagged _ d => prettyAt level d
  | null => "null"
  | bool b => boolText b
  | int i => Text.ofInt i
  | float x => if x.isFinite then jsonFloat.write x else "null"
  | text s => jsonText s

/-- The items of a list, each on lines of its own. -/
def prettyItems (level : Nat) : List Datum → String
  | [] => ""
  | [d] => newline level ++ prettyAt level d
  | d :: ds => newline level ++ prettyAt level d ++ "," ++ prettyItems level ds

/-- The entries of a mapping, each on lines of its own. -/
def prettyEntries (level : Nat) : List (Datum × Datum) → String
  | [] => ""
  | [(k, v)] => newline level ++ jsonKey k ++ ": " ++ prettyAt level v
  | (k, v) :: es =>
    newline level ++ jsonKey k ++ ": " ++ prettyAt level v ++ "," ++ prettyEntries level es

end

/-- JSON with one entry a line. -/
def pretty (d : Datum) : String :=
  prettyAt 0 d

end Manuscript.Datum
