/-!
# Calendar days

Days of the proleptic Gregorian calendar between two limits of years. A day carries the proof that
it exists. The day after is the only primitive step; a number of days is that many steps. A month
later is the same day number, or the last day of a shorter month. A step that leaves the limits
gives nothing.
-/

namespace Manuscript

/-- The first year with days. -/
def firstYear : Int := -262143

/-- The last year with days. -/
def lastYear : Int := 262142

/-- Whether a year has a twenty-ninth of February. -/
def isLeapYear (year : Int) : Bool :=
  year % 4 == 0 && (year % 100 != 0 || year % 400 == 0)

/-- The number of days of a month. -/
def daysInMonth (year : Int) (month : Nat) : Nat :=
  if month = 2 then (if isLeapYear year then 29 else 28)
  else if month = 4 ∨ month = 6 ∨ month = 9 ∨ month = 11 then 30
  else 31

/-- Whether year, month and day name a day of the calendar. -/
def IsDay (year : Int) (month day : Nat) : Prop :=
  firstYear ≤ year ∧ year ≤ lastYear ∧ 1 ≤ month ∧ month ≤ 12 ∧
    1 ≤ day ∧ day ≤ daysInMonth year month

instance (year : Int) (month day : Nat) : Decidable (IsDay year month day) :=
  inferInstanceAs (Decidable (_ ∧ _))

/-- A day of the calendar. -/
structure Date where
  year : Int
  month : Nat
  day : Nat
  isDay : IsDay year month day
  deriving DecidableEq

namespace Date

/-- The day that year, month and day name, if they name one. -/
def ofYmd? (year : Int) (month day : Nat) : Option Date :=
  if h : IsDay year month day then some ⟨year, month, day, h⟩ else none

/-- The day after. -/
def next? (d : Date) : Option Date :=
  if d.day < daysInMonth d.year d.month then ofYmd? d.year d.month (d.day + 1)
  else if d.month < 12 then ofYmd? d.year (d.month + 1) 1
  else ofYmd? (d.year + 1) 1 1

/-- The day a number of days later. -/
def addDays? (d : Date) : Nat → Option Date
  | 0 => some d
  | n + 1 => d.next?.bind fun e ↦ e.addDays? n

/-- The same day number in the month after, or that month's last day. -/
def nextMonth? (d : Date) : Option Date :=
  if d.month < 12 then
    ofYmd? d.year (d.month + 1) (min d.day (daysInMonth d.year (d.month + 1)))
  else ofYmd? (d.year + 1) 1 (min d.day (daysInMonth (d.year + 1) 1))

theorem ofYmd?_eq_some_iff {year : Int} {month day : Nat} {d : Date} :
    ofYmd? year month day = some d ↔ d.year = year ∧ d.month = month ∧ d.day = day := by
  obtain ⟨y, m, n, hd⟩ := d
  rw [ofYmd?]
  split
  · simp only [Option.some.injEq, Date.mk.injEq]
    exact ⟨fun ⟨a, b, c⟩ ↦ ⟨a.symm, b.symm, c.symm⟩, fun ⟨a, b, c⟩ ↦ ⟨a.symm, b.symm, c.symm⟩⟩
  · rename_i h
    simp only [reduceCtorEq, false_iff]
    rintro ⟨rfl, rfl, rfl⟩
    exact h hd

/-- Adding days in two portions is adding them at once. -/
theorem addDays?_add (d : Date) (m n : Nat) :
    d.addDays? (m + n) = (d.addDays? m).bind fun e ↦ e.addDays? n := by
  induction m generalizing d with
  | zero => simp [addDays?]
  | succ m ih =>
    rw [Nat.succ_add, addDays?, addDays?, Option.bind_assoc]
    congr 1
    funext e
    exact ih e

end Date

end Manuscript
