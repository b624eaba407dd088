import Manuscript.Text.Split

/-!
# Whole numbers as text

A number is read from ASCII digits, with leading zeros allowed, at least one digit required, and
an optional sign. The signed form takes `+` and `-`, the unsigned form `+` only. Range checks are
left to the caller. A number is written without leading zeros and without `+`.
-/

namespace Manuscript.Text

/-- The value of a digit in bases up to sixteen. -/
def digitValue? (c : Char) : Option Nat :=
  if '0' ≤ c ∧ c ≤ '9' then some (c.toNat - 48)
  else if 'a' ≤ c ∧ c ≤ 'f' then some (c.toNat - 87)
  else if 'A' ≤ c ∧ c ≤ 'F' then some (c.toNat - 55)
  else none

/-- Reads digits of a base after the ones already read. -/
def digitsFrom? (base : Nat) : Nat → List Char → Option Nat
  | n, [] => some n
  | n, c :: cs =>
    match digitValue? c with
    | some d => if d < base then digitsFrom? base (base * n + d) cs else none
    | none => none

/-- Reads a number that is digits of a base and nothing else. -/
def digits? (base : Nat) : List Char → Option Nat
  | [] => none
  | c :: cs => digitsFrom? base 0 (c :: cs)

/-- Reads a number with an optional `+`. -/
def unsigned? (base : Nat) : List Char → Option Nat
  | '+' :: cs => digits? base cs
  | cs => digits? base cs

/-- Reads a number with an optional sign. -/
def signed? (base : Nat) : List Char → Option Int
  | '-' :: cs => (digits? base cs).map fun n ↦ -(n : Int)
  | cs => (unsigned? base cs).map fun n ↦ (n : Int)

/-- Whether a character is an ASCII digit. -/
def isDigit (c : Char) : Bool :=
  '0' ≤ c && c ≤ '9'

/-- A whole number as text. -/
def ofInt (i : Int) : String :=
  if i < 0 then "-" ++ Nat.repr i.natAbs else Nat.repr i.natAbs

end Manuscript.Text
