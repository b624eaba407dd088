import Manuscript.Decimal.Binary

/-!
# Decimals with a fixed number of places

A double is written with a fixed number of digits after the point by rounding its exact value, and
a half goes to the even neighbour. `roundDiv_le` and `roundDiv_even` state the rule on quotients of
natural numbers.
-/

namespace Manuscript.Decimal

/-- The whole number nearest to `num / den`; a half goes to the even neighbour. -/
def roundDiv (num den : Nat) : Nat :=
  let floor := num / den
  let twice := 2 * (num % den)
  if twice < den then floor
  else if den < twice then floor + 1
  else if floor % 2 = 0 then floor else floor + 1

/-- A whole number of units of `10 ^ -places`, written with the point. -/
def withPlaces (places n : Nat) : String :=
  let digits := Nat.toDigits 10 n
  let padded := List.replicate (places + 1 - digits.length) '0' ++ digits
  let whole := padded.take (padded.length - places)
  let fraction := padded.drop (padded.length - places)
  String.ofList (if places = 0 then whole else whole ++ '.' :: fraction)

/-- A double with a fixed number of places. A negative one keeps its sign even if it rounds to
zero. -/
def fixed (places : Nat) (x : Float) : String :=
  match Binary.ofFloat x with
  | .notANumber => "NaN"
  | .infinite negative => if negative then "-inf" else "inf"
  | .finite negative m q =>
    let units := roundDiv (scaled m q * Nat.pow 10 places) (denominatorOf q)
    (if negative then "-" else "") ++ withPlaces places units

/-! ### The rounding rule -/

/-- The rounded quotient is at most half a unit away. -/
theorem roundDiv_le (num : Nat) {den : Nat} (h : 0 < den) :
    2 * num ≤ 2 * (roundDiv num den * den) + den ∧
      2 * (roundDiv num den * den) ≤ 2 * num + den := by
  have hdiv := Nat.div_add_mod num den
  have hlt := Nat.mod_lt num h
  have hsucc : (num / den + 1) * den = num / den * den + den := Nat.succ_mul _ _
  have hcomm : den * (num / den) = num / den * den := Nat.mul_comm _ _
  simp only [roundDiv]
  split
  · omega
  · split
    · omega
    · split <;> omega

/-- A quotient halfway between two whole numbers goes to the even one. -/
theorem roundDiv_even {num den : Nat} (h : 2 * (num % den) = den) : roundDiv num den % 2 = 0 := by
  simp only [roundDiv, h, Nat.lt_irrefl, if_false]
  split <;> omega

end Manuscript.Decimal
