/-!
# The exact value of a double

A finite double is `m * 2 ^ q` for whole numbers `m` and `q`, with a sign that zero has too. All
decimal text of doubles is computed from this form in exact arithmetic on natural numbers.
-/

namespace Manuscript.Decimal

/-- What a double stands for: a magnitude `mantissa * 2 ^ exponent` with a sign, an infinity, or no
number. -/
inductive Binary where
  | finite (negative : Bool) (mantissa : Nat) (exponent : Int)
  | infinite (negative : Bool)
  | notANumber
  deriving DecidableEq, Repr

/-- Reads the fields of a double: one sign bit, eleven exponent bits, fifty-two fraction bits. -/
def Binary.ofBits (bits : Nat) : Binary :=
  let negative := bits / Nat.pow 2 63 % 2 == 1
  let biased : Nat := bits / Nat.pow 2 52 % Nat.pow 2 11
  let fraction : Nat := bits % Nat.pow 2 52
  if biased = 2047 then
    if fraction = 0 then .infinite negative else .notANumber
  else if biased = 0 then .finite negative fraction (-1074)
  else .finite negative (Nat.pow 2 52 + fraction) ((biased : Int) - 1075)

/-- The exact value of a double. -/
def Binary.ofFloat (x : Float) : Binary :=
  .ofBits x.toBits.toNat

/-- The numerator of `n * 2 ^ q` over `denominatorOf q`: a negative exponent goes into the
denominator. -/
def scaled (n : Nat) (q : Int) : Nat :=
  n * Nat.pow 2 q.toNat

/-- The denominator of every `n * 2 ^ q` with this exponent. -/
def denominatorOf (q : Int) : Nat :=
  Nat.pow 2 (-q).toNat

end Manuscript.Decimal
