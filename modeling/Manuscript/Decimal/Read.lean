import Manuscript.Text.Number

/-!
# Reading decimals

A decimal is digits with at most one point among or beside them and an optional exponent of ten. It
is read as the nearest double, and as no number if it is beyond all of them. Exponents so large that
they decide the result by themselves are not computed.
-/

namespace Manuscript.Decimal

/-- The double nearest to `digits * 10 ^ exponent`, if it is finite. -/
def nearest? (digits : Nat) (exponent : Int) : Option Float :=
  let magnitude := ((Nat.toDigits 10 digits).length : Int) + exponent
  if digits = 0 ∨ magnitude < -330 then some 0.0
  else if 310 < magnitude then none
  else
    let x := Float.ofScientific digits (exponent < 0) exponent.natAbs
    if x.isFinite then some x else none

/-- Reads an exponent mark with its exponent. Without a mark the exponent is zero. -/
def exponent? : List Char → Option Int
  | [] => some 0
  | c :: cs => if c = 'e' ∨ c = 'E' then Text.signed? 10 cs else none

/-- Reads a decimal without a sign. Digits are required on one side of the point only. -/
def unsigned? (cs : List Char) : Option Float := do
  let whole := cs.takeWhile Text.isDigit
  let rest := cs.dropWhile Text.isDigit
  let (places, rest) := match rest with
    | '.' :: tail => (tail.takeWhile Text.isDigit, tail.dropWhile Text.isDigit)
    | _ => ([], rest)
  nearest? (← Text.digits? 10 (whole ++ places)) ((← exponent? rest) - places.length)

/-- Reads a decimal with an optional sign. -/
def read? : List Char → Option Float
  | '-' :: cs => (unsigned? cs).map Neg.neg
  | '+' :: cs => unsigned? cs
  | cs => unsigned? cs

end Manuscript.Decimal
