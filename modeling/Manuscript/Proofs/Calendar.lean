import Mathlib.Algebra.Order.Ring.Int
import Mathlib.Tactic.Linarith
import Manuscript.Calendar

/-!
# Days counted from the first year

Every day of the calendar has a number, counted from the first day of the year 1, and every month
one, counted from the start of the year 0. The numbers do not refer to the day after or to any other
step, only to the lengths of months and years, and they tell the days apart
(`dayNumber_injective`). So they say what the steps of the calendar do: a number of days later is
the day with that much higher a number (`addDays?_eq_some_iff`), which the calendar has up to its
last day (`exists_dayNumber_iff`), and a month later is in the next month.
-/

namespace Manuscript

/-! ### Years and months -/

/-- The number of days before a year, from the year 1 on. -/
def daysBeforeYear (year : ℤ) : ℤ :=
  365 * (year - 1) + (year - 1) / 4 - (year - 1) / 100 + (year - 1) / 400

/-- The number of days of a year before its month with the given number. -/
def daysBeforeMonth (year : ℤ) : ℕ → ℕ
  | 0 => 0
  | 1 => 0
  | month + 2 => daysBeforeMonth year (month + 1) + daysInMonth year (month + 1)

theorem daysBeforeMonth_succ (year : ℤ) {month : ℕ} (h : 1 ≤ month) :
    daysBeforeMonth year (month + 1) = daysBeforeMonth year month + daysInMonth year month := by
  obtain ⟨k, rfl⟩ := Nat.exists_eq_add_of_le' h
  rfl

/-- The months of a year make up the year. -/
theorem daysBeforeYear_succ (year : ℤ) :
    daysBeforeYear (year + 1) = daysBeforeYear year + daysBeforeMonth year 13 := by
  have hmonths : daysBeforeMonth year 13 = if isLeapYear year then 366 else 365 := by
    cases hleap : isLeapYear year <;> simp [daysBeforeMonth, daysInMonth, hleap]
  rw [hmonths]
  split
  · rename_i hleap
    simp only [isLeapYear, Bool.and_eq_true, Bool.or_eq_true, beq_iff_eq, bne_iff_ne] at hleap
    simp only [daysBeforeYear]
    omega
  · rename_i hleap
    simp only [isLeapYear, Bool.and_eq_true, Bool.or_eq_true, beq_iff_eq, bne_iff_ne] at hleap
    simp only [daysBeforeYear]
    omega

theorem daysBeforeYear_mono {y z : ℤ} (h : y ≤ z) : daysBeforeYear y ≤ daysBeforeYear z := by
  simp only [daysBeforeYear]
  omega

theorem daysBeforeMonth_mono (year : ℤ) : Monotone (daysBeforeMonth year) :=
  monotone_nat_of_le_succ fun month ↦ by
    cases month with
    | zero => exact le_rfl
    | succ month => exact Nat.le_add_right _ _

namespace Date

/-! ### The number of a day -/

/-- The number of a day. The first day of the year 1 has the number 1. -/
def dayNumber (d : Date) : ℤ :=
  daysBeforeYear d.year + daysBeforeMonth d.year d.month + d.day

/-- The number of a day's month, where a year has twelve. -/
def monthNumber (d : Date) : ℤ :=
  12 * d.year + d.month

/-- The last day of the calendar. -/
def last : Date := ⟨lastYear, 12, 31, by decide⟩

theorem bounds (d : Date) : firstYear ≤ d.year ∧ d.year ≤ lastYear ∧ 1 ≤ d.month ∧ d.month ≤ 12 ∧
    1 ≤ d.day ∧ d.day ≤ daysInMonth d.year d.month :=
  d.isDay

theorem ext_iff' {d e : Date} : d = e ↔ d.year = e.year ∧ d.month = e.month ∧ d.day = e.day := by
  obtain ⟨y, m, n, hd⟩ := d
  obtain ⟨z, k, l, he⟩ := e
  simp

/-- The days of a month lie between the days before it and the days before the next. -/
theorem daysBeforeMonth_add_day_le (d : Date) (month : ℕ) (h : d.month < month) :
    daysBeforeMonth d.year d.month + d.day ≤ daysBeforeMonth d.year month := by
  obtain ⟨-, -, hmonth, -, -, hday⟩ := d.bounds
  have hnext : daysBeforeMonth d.year (d.month + 1) ≤ daysBeforeMonth d.year month :=
    daysBeforeMonth_mono d.year h
  rw [daysBeforeMonth_succ d.year hmonth] at hnext
  omega

/-- The days of a year lie between the days before it and the days before the next. -/
theorem daysBeforeYear_lt_dayNumber (d : Date) : daysBeforeYear d.year < d.dayNumber := by
  obtain ⟨-, -, -, -, hday, -⟩ := d.bounds
  rw [dayNumber]
  omega

theorem dayNumber_le_daysBeforeYear (d : Date) {year : ℤ} (h : d.year < year) :
    d.dayNumber ≤ daysBeforeYear year := by
  obtain ⟨-, -, -, hmonth, -, -⟩ := d.bounds
  have hmonths := d.daysBeforeMonth_add_day_le 13 (by omega)
  have hyears := daysBeforeYear_mono (Int.add_one_le_of_lt h)
  rw [daysBeforeYear_succ] at hyears
  rw [dayNumber]
  omega

/-- **Days with the same number are the same.** -/
theorem dayNumber_injective : Function.Injective dayNumber := by
  intro d e h
  have hyear : d.year = e.year := by
    rcases lt_trichotomy d.year e.year with hlt | heq | hlt
    · have := d.dayNumber_le_daysBeforeYear hlt
      have := e.daysBeforeYear_lt_dayNumber
      omega
    · exact heq
    · have := e.dayNumber_le_daysBeforeYear hlt
      have := d.daysBeforeYear_lt_dayNumber
      omega
  obtain ⟨-, -, -, -, hday, -⟩ := d.bounds
  obtain ⟨-, -, -, -, hday', -⟩ := e.bounds
  rw [dayNumber, dayNumber, hyear] at h
  have hmonth : d.month = e.month := by
    rcases lt_trichotomy d.month e.month with hlt | heq | hlt
    · have := d.daysBeforeMonth_add_day_le _ hlt
      rw [hyear] at this
      omega
    · exact heq
    · have := e.daysBeforeMonth_add_day_le _ hlt
      omega
  rw [hmonth] at h
  exact ext_iff'.2 ⟨hyear, hmonth, by omega⟩

theorem dayNumber_le_last (d : Date) : d.dayNumber ≤ last.dayNumber := by
  obtain ⟨-, hyear, -⟩ := d.bounds
  have hlast : last.dayNumber = daysBeforeYear (lastYear + 1) := by decide
  rw [hlast]
  exact d.dayNumber_le_daysBeforeYear (Int.lt_add_one_of_le hyear)

/-! ### Days later -/

theorem dayNumber_of_next? {d e : Date} (h : d.next? = some e) :
    e.dayNumber = d.dayNumber + 1 := by
  obtain ⟨-, -, hmonth, hmonth', -, hday⟩ := d.bounds
  rw [next?] at h
  split at h
  · obtain ⟨hyear, hm, hd⟩ := ofYmd?_eq_some_iff.1 h
    rw [dayNumber, dayNumber, hyear, hm, hd]
    omega
  · split at h
    · obtain ⟨hyear, hm, hd⟩ := ofYmd?_eq_some_iff.1 h
      rw [dayNumber, dayNumber, hyear, hm, hd, daysBeforeMonth_succ d.year hmonth]
      omega
    · -- the year is over, and its months make it up
      obtain ⟨hyear, hm, hd⟩ := ofYmd?_eq_some_iff.1 h
      have hdecember : d.month = 12 := by omega
      have hend : d.day = daysInMonth d.year 12 := by rw [← hdecember]; omega
      have hjanuary : daysBeforeMonth (d.year + 1) 1 = 0 := rfl
      have hyears := daysBeforeYear_succ d.year
      rw [daysBeforeMonth_succ d.year (by decide)] at hyears
      rw [dayNumber, dayNumber, hyear, hm, hd, hdecember, hyears, hjanuary, hend]
      omega

theorem one_le_daysInMonth (year : ℤ) (month : ℕ) : 1 ≤ daysInMonth year month := by
  rw [daysInMonth]
  split
  · split <;> decide
  · split <;> decide

/-- Only the last day of the calendar has no day after it. -/
theorem eq_last_of_next? {d : Date} (h : d.next? = none) : d = last := by
  obtain ⟨hyear, hyear', hmonth, hmonth', hday, hday'⟩ := d.bounds
  have hnone : ∀ {year month day}, ofYmd? year month day = none → ¬ IsDay year month day :=
    fun h hd ↦ by rw [ofYmd?, dif_pos hd] at h; cases h
  rw [next?] at h
  split at h
  · exact absurd ⟨hyear, hyear', hmonth, hmonth', by omega, by omega⟩ (hnone h)
  · split at h
    · exact absurd ⟨hyear, hyear', by omega, by omega, le_rfl, one_le_daysInMonth _ _⟩ (hnone h)
    · have hdecember : d.month = 12 := by omega
      have hlast : ¬ d.year + 1 ≤ lastYear := fun hle ↦ hnone h
        ⟨by omega, hle, by decide, by decide, le_rfl, one_le_daysInMonth _ _⟩
      have hdays : daysInMonth d.year d.month = 31 := by rw [hdecember]; rfl
      exact ext_iff'.2 ⟨by show d.year = lastYear; omega, hdecember, by show d.day = 31; omega⟩

/-- **A number of days later** is the day whose number is that much higher. -/
theorem addDays?_eq_some_iff {d e : Date} {n : ℕ} :
    d.addDays? n = some e ↔ e.dayNumber = d.dayNumber + n := by
  induction n generalizing d with
  | zero =>
    rw [addDays?, Option.some_inj, ← dayNumber_injective.eq_iff]
    omega
  | succ n ih =>
    rw [addDays?]
    cases hnext : d.next? with
    | none =>
      obtain rfl := eq_last_of_next? hnext
      have := e.dayNumber_le_last
      simp only [Option.bind_none, reduceCtorEq, false_iff]
      omega
    | some f =>
      have hf := dayNumber_of_next? hnext
      rw [Option.bind_some, ih, hf]
      omega

/-- Every number up to that of the last day is the number of a day. -/
theorem exists_dayNumber_iff {d : Date} {n : ℕ} :
    (∃ e : Date, e.dayNumber = d.dayNumber + n) ↔ d.dayNumber + n ≤ last.dayNumber := by
  constructor
  · rintro ⟨e, he⟩
    exact he ▸ e.dayNumber_le_last
  · intro h
    induction n generalizing d with
    | zero => exact ⟨d, (Int.add_zero _).symm⟩
    | succ n ih =>
      cases hnext : d.next? with
      | none =>
        obtain rfl := eq_last_of_next? hnext
        omega
      | some f =>
        have hf := dayNumber_of_next? hnext
        obtain ⟨e, he⟩ := ih (d := f) (by omega)
        exact ⟨e, by omega⟩

/-- Between two days of the calendar lies every day that is numbered between them. -/
theorem exists_dayNumber_eq_add {d f : Date} {m n : ℕ}
    (h : f.dayNumber = d.dayNumber + (m + n : ℕ)) :
    ∃ e : Date, e.dayNumber = d.dayNumber + m ∧ f.dayNumber = e.dayNumber + n := by
  have hdays := addDays?_eq_some_iff.2 h
  rw [addDays?_add] at hdays
  obtain ⟨e, he, hf⟩ := Option.bind_eq_some_iff.1 hdays
  exact ⟨e, addDays?_eq_some_iff.1 he, addDays?_eq_some_iff.1 hf⟩

/-! ### A month later -/

/-- **A month later** is in the month after, on the same day or on that month's last one. -/
theorem nextMonth?_eq_some_iff {d e : Date} :
    d.nextMonth? = some e ↔
      e.monthNumber = d.monthNumber + 1 ∧ e.day = min d.day (daysInMonth e.year e.month) := by
  obtain ⟨-, -, hmonth, hmonth', -, -⟩ := d.bounds
  obtain ⟨-, -, hmonthE, hmonthE', -, -⟩ := e.bounds
  rw [nextMonth?, monthNumber, monthNumber]
  split
  · rw [ofYmd?_eq_some_iff]
    have hiff : 12 * e.year + e.month = 12 * d.year + d.month + 1 ↔
        e.year = d.year ∧ e.month = d.month + 1 := by omega
    rw [hiff, and_assoc]
    exact and_congr_right fun hy ↦ and_congr_right fun hm ↦ by rw [hy, hm]
  · rw [ofYmd?_eq_some_iff]
    have hiff : 12 * e.year + e.month = 12 * d.year + d.month + 1 ↔
        e.year = d.year + 1 ∧ e.month = 1 := by omega
    rw [hiff, and_assoc]
    exact and_congr_right fun hy ↦ and_congr_right fun hm ↦ by rw [hy, hm]

/-- Every month but the last has a month after it, and days in it. -/
theorem exists_nextMonth_iff {d : Date} :
    (∃ e : Date, e.monthNumber = d.monthNumber + 1 ∧
      e.day = min d.day (daysInMonth e.year e.month)) ↔
      d.monthNumber + 1 ≤ last.monthNumber := by
  obtain ⟨hyear, hyear', hmonth, hmonth', hday, -⟩ := d.bounds
  have hlast : last.monthNumber = 12 * lastYear + 12 := rfl
  rw [hlast]
  constructor
  · rintro ⟨e, he, -⟩
    obtain ⟨-, hyearE, -, hmonthE, -, -⟩ := e.bounds
    rw [← he, monthNumber]
    omega
  · intro h
    rw [monthNumber] at h
    have hisDay : ∀ {y : ℤ} {m : ℕ}, firstYear ≤ y → y ≤ lastYear → 1 ≤ m → m ≤ 12 →
        IsDay y m (min d.day (daysInMonth y m)) := fun hy hy' hm hm' ↦
      ⟨hy, hy', hm, hm', le_min hday (one_le_daysInMonth _ _), min_le_right _ _⟩
    rcases hmonth'.lt_or_eq with hlt | heq
    · refine ⟨⟨d.year, d.month + 1, _, hisDay hyear hyear' (by omega) hlt⟩, ?_, rfl⟩
      simp only [monthNumber]
      omega
    · refine ⟨⟨d.year + 1, 1, _, hisDay (by omega) (by omega) le_rfl (by decide)⟩, ?_, rfl⟩
      simp only [monthNumber, heq]
      omega

end Date

end Manuscript
