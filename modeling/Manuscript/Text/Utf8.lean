/-!
# Text from bytes

Bytes are read as UTF-8 with nothing refused: bytes that cannot belong to a character are replaced
by one replacement character for each longest run that begins like a character, and by one for every
other byte. The machine stands between characters or inside a character that its first byte has
opened; the first byte also limits the second one, so that no character is written longer than it
must be and none is half of a surrogate pair.
-/

namespace Manuscript.Text.Utf8

/-- The character that stands for bytes that are none. -/
def replacement : Char := '\ufffd'

/-- A character of which only the first bytes have been read. -/
structure Opened where
  /-- The number of bytes to come. -/
  owed : Nat
  /-- The bits read so far. -/
  bits : Nat
  /-- The least byte that may come next. -/
  low : Nat
  /-- The greatest byte that may come next. -/
  high : Nat
  deriving DecidableEq, Repr

/-- The character that a byte opens, if it is the first of several. -/
def open? (b : Nat) : Option Opened :=
  if 0xC2 ≤ b ∧ b ≤ 0xDF then some ⟨1, b - 0xC0, 0x80, 0xBF⟩
  else if b = 0xE0 then some ⟨2, 0, 0xA0, 0xBF⟩
  else if b = 0xED then some ⟨2, 0xD, 0x80, 0x9F⟩
  else if 0xE1 ≤ b ∧ b ≤ 0xEF then some ⟨2, b - 0xE0, 0x80, 0xBF⟩
  else if b = 0xF0 then some ⟨3, 0, 0x90, 0xBF⟩
  else if 0xF1 ≤ b ∧ b ≤ 0xF3 then some ⟨3, b - 0xF0, 0x80, 0xBF⟩
  else if b = 0xF4 then some ⟨3, 4, 0x80, 0x8F⟩
  else none

/-- What a byte between characters gives, and the character that it opens. -/
def start (b : Nat) : List Char × Option Opened :=
  if b < 0x80 then ([Char.ofNat b], none)
  else
    match open? b with
    | some o => ([], some o)
    | none => ([replacement], none)

/-- What a byte gives, and the character that is open behind it. -/
def step : Option Opened → Nat → List Char × Option Opened
  | none, b => start b
  | some o, b =>
    if o.low ≤ b ∧ b ≤ o.high then
      let bits := 64 * o.bits + (b - 0x80)
      if o.owed = 1 then ([Char.ofNat bits], none)
      else ([], some ⟨o.owed - 1, bits, 0x80, 0xBF⟩)
    else (replacement :: (start b).1, (start b).2)

/-- The text of bytes, behind those of an open character. -/
def decodeFrom : Option Opened → List UInt8 → List Char
  | none, [] => []
  | some _, [] => [replacement]
  | o, b :: bs => (step o b.toNat).1 ++ decodeFrom (step o b.toNat).2 bs

/-- The text of bytes. -/
def decode (bytes : ByteArray) : String :=
  String.ofList (decodeFrom none bytes.data.toList)

end Manuscript.Text.Utf8
