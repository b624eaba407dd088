import Manuscript.Toml.Scalar
import Manuscript.Toml.Tree

/-!
# Reading TOML

A text is read line by line: headers choose the table to which the keys of the following lines
belong. Arrays may go over several lines; a table in braces stands on one line. Whatever is
malformed makes the whole text unreadable.
-/

namespace Manuscript.Toml

/-- The text with line feeds for line ends. -/
def unifyBreaks : List Char → List Char
  | [] => []
  | '\r' :: '\n' :: cs => '\n' :: unifyBreaks cs
  | c :: cs => c :: unifyBreaks cs

/-- What follows blanks in the line. -/
def skipGap (cs : List Char) : List Char :=
  cs.dropWhile isGap

/-- What follows a comment, which ends in front of a line feed. -/
def skipComment? (cs : List Char) : Option (List Char) :=
  match cs with
  | '#' :: rest =>
    if (rest.takeWhile (· ≠ '\n')).any isControl then none else some (rest.dropWhile (· ≠ '\n'))
  | _ => some cs

/-- What follows the end of the line, if only blanks and a comment come before it. -/
def endLine? (cs : List Char) : Option (List Char) := do
  match ← skipComment? (skipGap cs) with
  | [] => some []
  | '\n' :: rest => some rest
  | _ => none

/-- What follows blanks, comments and line ends. -/
def skipLinesFrom (inComment : Bool) : List Char → Option (List Char)
  | [] => some []
  | c :: cs =>
    if c = '\n' then skipLinesFrom false cs
    else if inComment then (if isControl c then none else skipLinesFrom true cs)
    else if isGap c then skipLinesFrom false cs
    else if c = '#' then skipLinesFrom true cs
    else some (c :: cs)

/-! ### Keys -/

/-- Whether a character may stand in a key without quotes. -/
def isKeyChar (c : Char) : Bool :=
  c.isAlphanum || c = '_' || c = '-'

/-- Reads a key without dots. -/
def simpleKey? (cs : List Char) : Option (String × List Char) :=
  match cs with
  | '"' :: rest => lineFrom '"' .text [] rest
  | '\'' :: rest => lineFrom '\'' .text [] rest
  | _ =>
    let (key, rest) := cs.span isKeyChar
    if key.isEmpty then none else some (String.ofList key, rest)

/-- Reads the parts of a key with dots between them. No key has more parts than characters. -/
def keyParts? : Nat → List Char → Option (List String × List Char)
  | 0, _ => none
  | fuel + 1, cs => do
    let (key, rest) ← simpleKey? (skipGap cs)
    match skipGap rest with
    | '.' :: rest =>
      let (keys, rest) ← keyParts? fuel rest
      some (key :: keys, rest)
    | rest => some ([key], rest)

/-- Reads a key. -/
def key? (cs : List Char) : Option (List String × List Char) :=
  keyParts? (cs.length + 1) cs

/-- Reads a key and the sign behind it. -/
def assignedKey? (cs : List Char) : Option (List String × List Char) := do
  let (key, rest) ← key? cs
  some (key, skipGap (← after? '=' rest))

/-! ### Values -/

mutual

/-- Reads a value. -/
def value? : Nat → List Char → Option (Datum × List Char)
  | 0, _ => none
  | fuel + 1, cs =>
    match cs with
    | '"' :: rest => (string? '"' rest).map fun p ↦ (.text p.1, p.2)
    | '\'' :: rest => (string? '\'' rest).map fun p ↦ (.text p.1, p.2)
    | '[' :: rest => items? fuel [] rest
    | '\x7b' :: rest =>
      match skipGap rest with
      | '\x7d' :: rest => some (.map [], rest)
      | rest => fields? fuel [] rest
    | _ =>
      let (word, rest) := cutWord cs
      (word? word).map fun d ↦ (d, rest)

/-- Reads the items of an array on, up to its bracket. A comma may stand behind the last one. -/
def items? : Nat → List Datum → List Char → Option (Datum × List Char)
  | 0, _, _ => none
  | fuel + 1, items, cs => do
    match ← skipLinesFrom false cs with
    | ']' :: rest => some (.list items.reverse, rest)
    | cs =>
      let (d, rest) ← value? fuel cs
      match ← skipLinesFrom false rest with
      | ',' :: rest => items? fuel (d :: items) rest
      | ']' :: rest => some (.list (d :: items).reverse, rest)
      | _ => none

/-- Reads the fields of a table in braces on, up to its brace. -/
def fields? : Nat → Entries → List Char → Option (Datum × List Char)
  | 0, _, _ => none
  | fuel + 1, es, cs => do
    let (key, rest) ← assignedKey? cs
    let (d, rest) ← value? fuel rest
    let es ← es.addValue? d key
    match skipGap rest with
    | ',' :: rest => fields? fuel es rest
    | '\x7d' :: rest => some (es.toDatum, rest)
    | _ => none

end

/-! ### Documents -/

/-- Reads the key of a header behind its opening brackets, up to the end of its line. -/
def header? (closing : List Char) (cs : List Char) : Option (List String × List Char) := do
  let (path, rest) ← key? cs
  some (path, ← endLine? (← closing.isPrefixOf? rest))

/-- Reads one line into the entries so far, and says to which table the following lines belong. -/
def line? (current : List String) (es : Entries) (cs : List Char) :
    Option (List String × Entries × List Char) :=
  match cs with
  | '[' :: '[' :: rest => do
    let (path, rest) ← header? [']', ']'] rest
    some (path, ← es.appendTable? path, rest)
  | '[' :: rest => do
    let (path, rest) ← header? [']'] rest
    some (path, ← es.openTable? path, rest)
  | _ => do
    let (key, rest) ← assignedKey? cs
    let (d, rest) ← value? (rest.length + 1) rest
    some (current, ← es.alterAt? (Entries.addValue? d key) current, ← endLine? rest)

/-- Reads the lines on. Every line takes at least one character. -/
def linesFrom? : Nat → List String → Entries → List Char → Option Entries
  | 0, _, _, _ => none
  | fuel + 1, current, es, cs => do
    match ← skipLinesFrom false cs with
    | [] => some es
    | cs =>
      let (current, es, rest) ← line? current es cs
      linesFrom? fuel current es rest

/-- Reads a TOML text as a mapping. A byte order mark in front of it is skipped. -/
def read? (text : String) : Option Datum :=
  let cs := match unifyBreaks text.toList with
    | '\ufeff' :: cs => cs
    | cs => cs
  (linesFrom? (cs.length + 1) [] [] cs).map Entries.toDatum

end Manuscript.Toml
