import Manuscript.Decimal.Shortest

/-!
# Shortest decimals as text

The digits of a double's shortest decimal are written either positionally or with an exponent. A
`Style` holds what a text format decides: where positional text ends, whether a whole number keeps
`.0`, and the words for the values that are no numbers.
-/

namespace Manuscript.Decimal

/-- The choices of a text format for doubles. -/
structure Style where
  /-- Whether digits whose point stands after that many of them are written positionally; the
  place of the point is counted from the front of the digits and may be negative. -/
  positional : Int → Bool
  /-- Whether a whole number written positionally ends in `.0`. -/
  pointZero : Bool
  infinity : String
  notANumber : String

/-- Digits with the point at a place counted from their front, without an exponent. -/
def positionalChars (pointZero : Bool) (digits : List Char) (point : Int) : List Char :=
  if point ≤ 0 then '0' :: '.' :: (List.replicate point.natAbs '0' ++ digits)
  else if digits.length ≤ point.natAbs then
    digits ++ List.replicate (point.natAbs - digits.length) '0'
      ++ (if pointZero then ['.', '0'] else [])
  else digits.take point.natAbs ++ '.' :: digits.drop point.natAbs

/-- Digits with one of them before the point and the rest in an exponent. -/
def exponentChars (digits : List Char) (point : Int) : List Char :=
  let lead := digits.take 1
  let rest := digits.drop 1
  let exponent := point - 1
  lead ++ (if rest.isEmpty then [] else '.' :: rest) ++ 'e' ::
    ((if exponent < 0 then ['-'] else []) ++ Nat.toDigits 10 exponent.natAbs)

/-- A double as text. -/
def Style.write (style : Style) (x : Float) : String :=
  match Binary.ofFloat x with
  | .notANumber => style.notANumber
  | .infinite negative => (if negative then "-" else "") ++ style.infinity
  | .finite negative m q =>
    let sign := if negative then "-" else ""
    if m = 0 then sign ++ (if style.pointZero then "0.0" else "0")
    else
      let d := shortest m q
      let digits := Nat.toDigits 10 d.digits
      let point := (digits.length : Int) + d.exponent
      sign ++ String.ofList
        (if style.positional point then positionalChars style.pointZero digits point
          else exponentChars digits point)

/-- Doubles without an exponent at any size and without `.0`. -/
def plain : Style where
  positional _ := true
  pointZero := false
  infinity := "inf"
  notANumber := "NaN"

end Manuscript.Decimal
