import Manuscript.Decimal.Binary

/-!
# The shortest decimal of a double

Of the decimals that read back as a given double, the ones with the fewest digits are taken, and of
those the nearest to the double's exact value, an exact tie going to the even last digit.

The reals that read back as `m * 2 ^ q` form an interval around it, which holds its ends exactly if
`m` is even. On the grid of decimals with a given number of digits, only the two neighbours of the
exact value need to be tested: if any point of the grid lies in the interval, one of them does.
Seventeen digits always suffice. All comparisons are between natural numbers over one common
denominator.
-/

namespace Manuscript.Decimal

/-- A positive decimal `digits * 10 ^ exponent`. -/
structure Scientific where
  digits : Nat
  exponent : Int
  deriving DecidableEq, Repr

/-- Moves the zeros at the end of the digits into the exponent. -/
def Scientific.trimZeros (x : Scientific) : Nat → Scientific
  | 0 => x
  | fuel + 1 =>
    if x.digits % 10 = 0 ∧ x.digits ≠ 0 then
      Scientific.trimZeros ⟨x.digits / 10, x.exponent + 1⟩ fuel
    else x

/-- The interval of reals that read back as one double, over a common denominator. -/
structure Interval where
  low : Nat
  value : Nat
  high : Nat
  denominator : Nat
  closed : Bool
  deriving DecidableEq, Repr

/-- The interval around `m * 2 ^ q`. Below a power of two the gap is half as wide. -/
def Interval.around (m : Nat) (q : Int) : Interval :=
  let below : Nat := if m = Nat.pow 2 52 ∧ q ≠ -1074 then 1 else 2
  { low := scaled (4 * m - below) (q - 2)
    value := scaled (4 * m) (q - 2)
    high := scaled (4 * m + 2) (q - 2)
    denominator := denominatorOf (q - 2)
    closed := m % 2 == 0 }

/-- Whether `n / d`, with `d` a multiple of the denominator by `scale`, lies in the interval. -/
def Interval.holds (i : Interval) (n scale : Nat) : Bool :=
  if i.closed then i.low * scale ≤ n && n ≤ i.high * scale
  else i.low * scale < n && n < i.high * scale

/-- The number of digits before the point of the value, or minus the number of zeros after it. -/
def Interval.magnitude (i : Interval) : Int :=
  let whole := i.value / i.denominator
  if whole ≠ 0 then ((Nat.toDigits 10 whole).length : Int)
  else
    let zeros := (List.range 330).find? fun j ↦ i.denominator ≤ i.value * Nat.pow 10 (j + 1)
    (0 : Int) - zeros.getD 330

/-- The better neighbour of the value on the grid `10 ^ exponent`, if one lies in the interval. -/
def Interval.nearest? (i : Interval) (exponent : Int) : Option Nat :=
  let up := Nat.pow 10 (-exponent).toNat
  let down := Nat.pow 10 exponent.toNat
  let value := i.value * up
  let unit := i.denominator * down
  let floor := value / unit
  let lowHit := floor ≠ 0 && i.holds (floor * unit) up
  let highHit := i.holds ((floor + 1) * unit) up
  let twice := 2 * (value % unit)
  match lowHit, highHit with
  | false, false => none
  | true, false => some floor
  | false, true => some (floor + 1)
  | true, true =>
    if twice < unit then some floor
    else if unit < twice then some (floor + 1)
    else some (if floor % 2 = 0 then floor else floor + 1)

/-- The shortest decimal that reads back as `m * 2 ^ q`, for a mantissa that is not zero. -/
def shortest (m : Nat) (q : Int) : Scientific :=
  let i := Interval.around m q
  let point := i.magnitude
  let grid := (List.range 17).findSome? fun n ↦
    let exponent : Int := point - ((n : Nat) + 1 : Nat)
    (i.nearest? exponent).map fun digits ↦ Scientific.mk digits exponent
  (grid.getD ⟨0, 0⟩).trimZeros 20

end Manuscript.Decimal
