/-!
# Words

Where a format or a setting keeps a whole number in a word of so many bits, numbers beyond the
word's range are no such numbers. A signed word has one bit for the sign.
-/

namespace Manuscript.Word

/-- The number of different words. -/
def count (bits : Nat) : Nat :=
  Nat.pow 2 bits

/-- Whether a whole number fits a word without a sign. -/
def fitsUnsigned (bits : Nat) (i : Int) : Bool :=
  0 ≤ i && i < count bits

/-- Whether a whole number fits a signed word. -/
def fitsSigned (bits : Nat) (i : Int) : Bool :=
  -(count (bits - 1) : Int) ≤ i && i < count (bits - 1)

/-- Whether a whole number fits a word that is signed if the number is negative. -/
def fits (bits : Nat) (i : Int) : Bool :=
  fitsSigned bits i || fitsUnsigned bits i

end Manuscript.Word
