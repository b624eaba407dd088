import Manuscript.Calendar
import Manuscript.Datum.Basic
import Manuscript.Decimal.Read

/-!
# Scalars of TOML

Strings stand in quotes, of which single ones take everything literally. Every other scalar is a
word: a truth value, a whole number of 64 bits, a finite double, an infinity or no number, or a
moment. Underscores may stand between the digits of a number. Moments have no type of their own
among data; they are kept as their text in normal form.

A text in which a carriage return directly in front of a line feed has been dropped is read one
character at a time.
-/

namespace Manuscript.Toml

/-- Whether a character is blank inside a line. -/
def isGap (c : Char) : Bool :=
  c = ' ' || c = '\t'

/-- Whether a character must not stand in a text, apart from line feeds. -/
def isControl (c : Char) : Bool :=
  (c.toNat < 32 && c ≠ '\t') || c.toNat = 127

/-! ### Strings -/

/-- The character that an escape of one letter stands for. -/
def escapeOf? (c : Char) : Option Char :=
  match c with
  | 'b' => some (Char.ofNat 8)
  | 't' => some '\t'
  | 'n' => some '\n'
  | 'f' => some (Char.ofNat 12)
  | 'r' => some '\r'
  | '"' => some '"'
  | '\\' => some '\\'
  | _ => none

/-- The character with a code, unless the code is one half of a surrogate pair or too large. -/
def charOfCode? (n : Nat) : Option Char :=
  if h : n.isValidChar then some (Char.ofNatAux n h) else none

/-- What the next character of a string belongs to. -/
inductive StringMode where
  | text
  /-- A backslash was read. -/
  | escape
  /-- So many digits of a code are to come. -/
  | code (left value : Nat)
  /-- A line end was escaped, and the blanks behind it are dropped. -/
  | joining
  /-- A line end must come, because only blanks stand behind a backslash. -/
  | closing
  deriving DecidableEq, Repr

/-- Reads a string of one line on, up to its closing quote. -/
def lineFrom (quote : Char) (mode : StringMode) (acc : List Char) :
    List Char → Option (String × List Char)
  | [] => none
  | c :: cs =>
    match mode with
    | .escape =>
      if c = 'u' then lineFrom quote (.code 4 0) acc cs
      else if c = 'U' then lineFrom quote (.code 8 0) acc cs
      else
        match escapeOf? c with
        | some d => lineFrom quote .text (d :: acc) cs
        | none => none
    | .code left value =>
      match Text.digitValue? c with
      | none => none
      | some digit =>
        let value := 16 * value + digit
        if 1 < left then lineFrom quote (.code (left - 1) value) acc cs
        else
          match charOfCode? value with
          | some d => lineFrom quote .text (d :: acc) cs
          | none => none
    | _ =>
      if c = quote then some (String.ofList acc.reverse, cs)
      else if isControl c then none
      else if c = '\\' && quote = '"' then lineFrom quote .escape acc cs
      else lineFrom quote .text (c :: acc) cs

/-- Reads a string of several lines on. It ends at three quotes; up to two more quotes in front of
them belong to it. The counter holds the quotes that have just been read. -/
def linesFrom (quote : Char) (mode : StringMode) (quotes : Nat) (acc : List Char) :
    List Char → Option (String × List Char)
  | [] => if 3 ≤ quotes then some (String.ofList (acc.drop 3).reverse, []) else none
  | c :: cs =>
    if 3 ≤ quotes && (c ≠ quote || quotes = 5) then
      some (String.ofList (acc.drop 3).reverse, c :: cs)
    else
      match mode with
      | .escape =>
        if c = '\n' then linesFrom quote .joining 0 acc cs
        else if isGap c then linesFrom quote .closing 0 acc cs
        else if c = 'u' then linesFrom quote (.code 4 0) 0 acc cs
        else if c = 'U' then linesFrom quote (.code 8 0) 0 acc cs
        else
          match escapeOf? c with
          | some d => linesFrom quote .text 0 (d :: acc) cs
          | none => none
      | .code left value =>
        match Text.digitValue? c with
        | none => none
        | some digit =>
          let value := 16 * value + digit
          if 1 < left then linesFrom quote (.code (left - 1) value) 0 acc cs
          else
            match charOfCode? value with
            | some d => linesFrom quote .text 0 (d :: acc) cs
            | none => none
      | .closing =>
        if c = '\n' then linesFrom quote .joining 0 acc cs
        else if isGap c then linesFrom quote .closing 0 acc cs
        else none
      | mode =>
        if mode = .joining && (c = '\n' || isGap c) then linesFrom quote .joining 0 acc cs
        else if c = quote then linesFrom quote .text (quotes + 1) (c :: acc) cs
        else if isControl c && c ≠ '\n' then none
        else if c = '\\' && quote = '"' then linesFrom quote .escape 0 acc cs
        else linesFrom quote .text 0 (c :: acc) cs

/-- Reads a string behind its first quote. A line end directly behind three quotes is dropped. -/
def string? (quote : Char) (cs : List Char) : Option (String × List Char) :=
  match cs with
  | a :: b :: rest =>
    if a = quote && b = quote then
      linesFrom quote .text 0 [] (if rest.head? = some '\n' then rest.drop 1 else rest)
    else lineFrom quote .text [] cs
  | _ => lineFrom quote .text [] cs

/-! ### Numbers -/

/-- The digits without the underscores between them. -/
def joinDigits? (isDigit : Char → Bool) : List Char → Option (List Char)
  | [] => none
  | [c] => if isDigit c then some [c] else none
  | c :: '_' :: cs => if isDigit c then (joinDigits? isDigit cs).map (c :: ·) else none
  | c :: cs => if isDigit c then (joinDigits? isDigit cs).map (c :: ·) else none

/-- Reads a number of a base. -/
def based? (base : Nat) (cs : List Char) : Option Nat := do
  Text.digits? base (← joinDigits? (fun c ↦ (Text.digitValue? c).any (· < base)) cs)

/-- Whether digits begin with a zero that others follow. -/
def isPadded (digits : List Char) : Bool :=
  1 < digits.length && digits.head? = some '0'

/-- The digits of a decimal number, which is not padded. -/
def plainDigits? (cs : List Char) : Option (List Char) := do
  let digits ← joinDigits? Text.isDigit cs
  if isPadded digits then none else some digits

/-- Reads a whole number of any size. -/
def whole? : List Char → Option Int
  | '0' :: 'x' :: cs => (based? 16 cs).map Int.ofNat
  | '0' :: 'o' :: cs => (based? 8 cs).map Int.ofNat
  | '0' :: 'b' :: cs => (based? 2 cs).map Int.ofNat
  | '-' :: cs => do some (-((← Text.digits? 10 (← plainDigits? cs) : Nat) : Int))
  | '+' :: cs => do some (Int.ofNat (← Text.digits? 10 (← plainDigits? cs)))
  | cs => do some (Int.ofNat (← Text.digits? 10 (← plainDigits? cs)))

/-- The part of a number up to its exponent, and the exponent with its mark. -/
def cutExponent (cs : List Char) : List Char × List Char :=
  cs.span fun c ↦ c ≠ 'e' && c ≠ 'E'

/-- The digits of an exponent behind its mark, with its sign. -/
def exponentDigits? : List Char → Option (List Char)
  | '-' :: cs => (joinDigits? Text.isDigit cs).map ('-' :: ·)
  | '+' :: cs => joinDigits? Text.isDigit cs
  | cs => joinDigits? Text.isDigit cs

/-- A double without a sign in the form that has no underscores. Digits stand on both sides of a
point. -/
def plainFloat? (cs : List Char) : Option (List Char) := do
  let (front, mark) := cutExponent cs
  let exponent ← match mark with
    | [] => some []
    | _ :: digits => (exponentDigits? digits).map ('e' :: ·)
  match front.span (· ≠ '.') with
  | (whole, _ :: places) =>
    some ((← plainDigits? whole) ++ '.' :: (← joinDigits? Text.isDigit places) ++ exponent)
  | (whole, []) => if mark.isEmpty then none else some ((← plainDigits? whole) ++ exponent)

/-- Reads a double without a sign. -/
def unsignedFloat? (cs : List Char) : Option Float :=
  if cs = "inf".toList then some (1.0 / 0.0)
  else if cs = "nan".toList then some (0.0 / 0.0)
  else (plainFloat? cs).bind Decimal.unsigned?

/-- Reads a double. -/
def float? : List Char → Option Float
  | '-' :: cs => (unsignedFloat? cs).map Neg.neg
  | '+' :: cs => unsignedFloat? cs
  | cs => unsignedFloat? cs

/-! ### Moments -/

/-- Reads a number of exactly so many digits at the front. -/
def fixedDigits? (width : Nat) (cs : List Char) : Option (Nat × List Char) :=
  if cs.length < width || !(cs.take width).all Text.isDigit then none
  else (Text.digits? 10 (cs.take width)).map fun n ↦ (n, cs.drop width)

/-- What follows a mark. -/
def after? (mark : Char) : List Char → Option (List Char)
  | c :: cs => if c = mark then some cs else none
  | [] => none

/-- A number of at least so many digits. -/
def padded (width n : Nat) : String :=
  let digits := Nat.toDigits 10 n
  String.ofList (List.replicate (width - digits.length) '0' ++ digits)

/-- Reads a calendar day at the front, as its normal text. -/
def day? (cs : List Char) : Option (String × List Char) := do
  let (y, cs) ← fixedDigits? 4 cs
  let (m, cs) ← fixedDigits? 2 (← after? '-' cs)
  let (d, cs) ← fixedDigits? 2 (← after? '-' cs)
  if (Date.ofYmd? y m d).isSome then
    some (padded 4 y ++ "-" ++ padded 2 m ++ "-" ++ padded 2 d, cs)
  else none

/-- A fraction of a second to nine places, without zeros at its end. -/
def fractionText (digits : List Char) : String :=
  let kept := ((digits.take 9).reverse.dropWhile (· = '0')).reverse
  if kept.isEmpty then "" else String.ofList ('.' :: kept)

/-- Reads a time of day at the front, as its normal text. -/
def time? (cs : List Char) : Option (String × List Char) := do
  let (h, cs) ← fixedDigits? 2 cs
  let (m, cs) ← fixedDigits? 2 (← after? ':' cs)
  let (s, cs) ← fixedDigits? 2 (← after? ':' cs)
  if 23 < h ∨ 59 < m ∨ 60 < s then none
  else
    let text := padded 2 h ++ ":" ++ padded 2 m ++ ":" ++ padded 2 s
    match cs with
    | '.' :: rest =>
      let digits := rest.takeWhile Text.isDigit
      if digits.isEmpty then none
      else some (text ++ fractionText digits, rest.dropWhile Text.isDigit)
    | _ => some (text, cs)

/-- Reads the offset of a zone that ends the word, as its normal text. -/
def zone? : List Char → Option String
  | [] => some ""
  | ['Z'] => some "Z"
  | ['z'] => some "Z"
  | sign :: cs => do
    let (h, cs) ← fixedDigits? 2 cs
    let (m, cs) ← fixedDigits? 2 (← after? ':' cs)
    if (sign = '+' ∨ sign = '-') ∧ h < 24 ∧ m < 60 ∧ cs = [] then
      some (sign.toString ++ padded 2 h ++ ":" ++ padded 2 m)
    else none

/-- Reads a moment: a day, a time of day, or both with or without a zone. -/
def moment? (cs : List Char) : Option String :=
  match day? cs with
  | some (day, []) => some day
  | some (day, sep :: rest) =>
    if sep = 'T' ∨ sep = 't' ∨ sep = ' ' then do
      let (time, rest) ← time? rest
      some (day ++ "T" ++ time ++ (← zone? rest))
    else none
  | none =>
    match time? cs with
    | some (time, []) => some time
    | _ => none

/-! ### Words -/

/-- Reads a scalar that does not stand in quotes. -/
def word? (cs : List Char) : Option Datum :=
  if cs = "true".toList then some (.bool true)
  else if cs = "false".toList then some (.bool false)
  else
    match whole? cs with
    | some i => if Word.fitsSigned 64 i then some (.int i) else none
    | none =>
      match float? cs with
      | some x => some (.float x)
      | none => (moment? cs).map .text

/-- Whether a character may stand in a word. -/
def isWordChar (c : Char) : Bool :=
  c.isAlphanum || "_+-.:".toList.contains c

/-- Whether a time of day follows behind one space. -/
def timeFollows : List Char → Bool
  | ' ' :: cs => (fixedDigits? 2 cs).any fun p ↦ p.2.head? = some ':'
  | _ => false

/-- The word at the front, and what follows it. A day and a time of day with a space between them
are one word. -/
def cutWord (cs : List Char) : List Char × List Char :=
  let (word, rest) := cs.span isWordChar
  match day? word with
  | some (_, []) =>
    if timeFollows rest then
      let (time, rest) := (rest.drop 1).span isWordChar
      (word ++ ' ' :: time, rest)
    else (word, rest)
  | _ => (word, rest)

end Manuscript.Toml
