import Manuscript.Compile.SceneDate
import Manuscript.Proofs.Calendar
import Manuscript.Proofs.Text.Number
import Manuscript.Proofs.Text.Split
import Mathlib.Data.List.Forall2

/-!
# Dates that follow one another

The date of a scene is carried as two texts, which are read again at every step. The texts that a
step writes are read back as the day that they were written for (`parseDate?_monthDay`,
`yearOfText?_yearText`), and a year that is not written anew was read before. So a row of scenes,
each in the year of the scene before and a step after its date, goes through the days that the steps
lead to on the calendar, however the first date was spelled. One scene is one step of that
(`parseDate?_resolveScene`), and where no step is a month, only the number of days counts
(`Date.reaches_of_dayNumber`). A step leads nowhere only at the end of the calendar
(`Date.exists_isStep_iff`).
-/

namespace Manuscript

/-! ### Texts of dates -/

/-- A year that was written has no blanks. -/
theorem Date.trim_yearText (d : Date) : Text.trim d.yearText = d.yearText :=
  Text.trim_of_isTrimmed (Text.isTrimmed_of_forall fun _ ↦ Text.isBlank_of_mem_ofInt)

theorem yearOfText?_yearText (d : Date) : yearOfText? d.yearText = some d.year := by
  have hfits : Word.fitsSigned 32 d.year = true := by
    obtain ⟨hfirst, hlast, -⟩ := d.bounds
    have hcount : Word.count (32 - 1) = 2147483648 := by decide
    rw [Word.fitsSigned, hcount, Bool.and_eq_true, decide_eq_true_iff, decide_eq_true_iff]
    rw [firstYear] at hfirst
    rw [lastYear] at hlast
    omega
  rw [yearOfText?, d.trim_yearText, Date.yearText, Text.signed?_ofInt, Option.filter_some, if_pos hfits]

theorem dayNumberOfText?_repr {n : ℕ} (h : n ≤ 31) : dayNumberOfText? (Nat.repr n) = some n := by
  have htrim : Text.trim (Nat.repr n) = Nat.repr n :=
    Text.trim_of_isTrimmed (Text.isTrimmed_of_forall fun _ hc ↦
      Text.isBlank_of_isDigit (Text.isDigit_of_mem_repr hc))
  have hfits : Word.fitsUnsigned 32 n = true := by
    have hcount : Word.count 32 = 4294967296 := by decide
    rw [Word.fitsUnsigned, hcount, Bool.and_eq_true, decide_eq_true_iff, decide_eq_true_iff]
    omega
  rw [dayNumberOfText?, htrim, Text.unsigned?_repr, Option.filter_some, if_pos hfits]

/-- A date that was written has no blanks. -/
theorem Date.trim_monthDay (d : Date) : Text.trim d.monthDay = d.monthDay := by
  refine Text.trim_of_isTrimmed (Text.isTrimmed_of_forall fun c h ↦ ?_)
  rw [monthDay, String.toList_append, String.toList_append] at h
  rcases List.mem_append.1 h with h | h
  · rcases List.mem_append.1 h with h | h
    · exact Text.isBlank_of_isDigit (Text.isDigit_of_mem_repr h)
    · obtain rfl := List.mem_singleton.1 h
      rfl
  · exact Text.isBlank_of_isDigit (Text.isDigit_of_mem_repr h)

theorem splitOnce_monthDay (d : Date) :
    Text.splitOnce "/" d.monthDay = some (Nat.repr d.month, Nat.repr d.day) := by
  have hslash : '/' ∉ (Nat.repr d.month).toList := fun h ↦ by cases Text.isDigit_of_mem_repr h
  exact (Text.splitOnce_eq_some_iff rfl).2 ⟨rfl, hslash⟩

/-- **A written date is read back**, in a text of its year. -/
theorem parseDate?_monthDay {year : String} {d : Date} (h : yearOfText? year = some d.year) :
    parseDate? year d.monthDay = some d := by
  obtain ⟨-, -, -, hmonth, -, hday⟩ := d.bounds
  have hdays : daysInMonth d.year d.month ≤ 31 := by
    rw [daysInMonth]
    split
    · split <;> decide
    · split <;> decide
  have hmonthText := dayNumberOfText?_repr (hmonth.trans (by decide : 12 ≤ 31))
  have hdayText := dayNumberOfText?_repr (hday.trans hdays)
  simp only [parseDate?, h, d.trim_monthDay, splitOnce_monthDay, hmonthText, hdayText,
    Option.bind_eq_bind, Option.bind_some]
  exact Date.ofYmd?_eq_some_iff.2 ⟨rfl, rfl, rfl⟩

theorem yearOfText?_of_parseDate? {year date : String} {d : Date}
    (h : parseDate? year date = some d) : yearOfText? year = some d.year := by
  rw [parseDate?] at h
  obtain ⟨y, hy, h⟩ := Option.bind_eq_some_iff.1 h
  obtain ⟨⟨month, day⟩, -, h⟩ := Option.bind_eq_some_iff.1 h
  obtain ⟨m, -, h⟩ := Option.bind_eq_some_iff.1 h
  obtain ⟨n, -, h⟩ := Option.bind_eq_some_iff.1 h
  rw [hy, (Date.ofYmd?_eq_some_iff.1 h).1]

/-! ### Steps on the calendar -/

namespace Date

/-- A day is a step after another. A month later is in the month after, on the same day or on that
month's last one. -/
def IsStep : DateStep → Date → Date → Prop
  | .day, d, e => e.dayNumber = d.dayNumber + 1
  | .week, d, e => e.dayNumber = d.dayNumber + 7
  | .month, d, e =>
    e.monthNumber = d.monthNumber + 1 ∧ e.day = min d.day (daysInMonth e.year e.month)

instance (step : DateStep) (d e : Date) : Decidable (IsStep step d e) := by
  cases step
  · exact inferInstanceAs (Decidable (_ = _))
  · exact inferInstanceAs (Decidable (_ = _))
  · exact inferInstanceAs (Decidable (_ ∧ _))

theorem step?_eq_some_iff {step : DateStep} {d e : Date} :
    d.step? step = some e ↔ IsStep step d e := by
  cases step with
  | day => exact addDays?_eq_some_iff
  | week => exact addDays?_eq_some_iff
  | month => exact nextMonth?_eq_some_iff

/-- **A step leads to a day** unless it goes past the last day, or the last month, of the
calendar. -/
theorem exists_isStep_iff {step : DateStep} {d : Date} :
    (∃ e, IsStep step d e) ↔
      match step with
      | .day => d.dayNumber + 1 ≤ last.dayNumber
      | .week => d.dayNumber + 7 ≤ last.dayNumber
      | .month => d.monthNumber + 1 ≤ last.monthNumber := by
  cases step with
  | day => exact exists_dayNumber_iff (n := 1)
  | week => exact exists_dayNumber_iff (n := 7)
  | month => exact exists_nextMonth_iff

/-- A row of steps leads from a day to another, by way of days of the calendar. -/
inductive Reaches : Date → List DateStep → Date → Prop
  | nil (d : Date) : Reaches d [] d
  | cons {step : DateStep} {steps : List DateStep} {d e f : Date} (hstep : IsStep step d e)
      (hsteps : Reaches e steps f) : Reaches d (step :: steps) f

/-- The number of days that the steps make which are not months. -/
def daysOf (steps : List DateStep) : ℕ :=
  steps.count .day + 7 * steps.count .week

/-- Days and weeks lead to the day that is that many days later, in whatever order they stand. -/
theorem reaches_of_dayNumber {steps : List DateStep} (hmonth : .month ∉ steps) {d f : Date}
    (h : f.dayNumber = d.dayNumber + daysOf steps) : Reaches d steps f := by
  induction steps generalizing d with
  | nil =>
    obtain rfl : f = d := dayNumber_injective (h.trans (Int.add_zero _))
    exact .nil f
  | cons step steps ih =>
    obtain ⟨hstep, hsteps⟩ := not_or.1 (mt List.mem_cons.2 hmonth)
    -- the day after the first step lies before the last day, and so the calendar has it
    cases step with
    | day =>
      have hdays : daysOf (.day :: steps) = 1 + daysOf steps := by
        simp [daysOf]
        omega
      obtain ⟨e, he, hf⟩ := exists_dayNumber_eq_add (hdays ▸ h)
      exact .cons he (ih hsteps hf)
    | week =>
      have hdays : daysOf (.week :: steps) = 7 + daysOf steps := by
        simp [daysOf]
        omega
      obtain ⟨e, he, hf⟩ := exists_dayNumber_eq_add (hdays ▸ h)
      exact .cons he (ih hsteps hf)
    | month => exact absurd rfl hstep

end Date

/-! ### Rows of scenes -/

/-- A step of the date gives year and date the texts of a later day. -/
theorem resolveScene_of_next (previous : SceneHead) {scene : SceneSheet SceneValue}
    {step : DateStep} (h : scene.date = .next step) :
    resolveScene previous scene =
      ((scene.zipWith (fun v p ↦ v.resolve p) previous).set .year
        (stepDate previous step scene.year).1).set .date (stepDate previous step scene.year).2 := by
  simp only [resolveScene, h]
  generalize stepDate previous step scene.year = texts
  rfl

/-- Without a step of the date, every facet is resolved on its own. -/
theorem resolveScene_of_ne_next (previous : SceneHead) {scene : SceneSheet SceneValue}
    (h : ∀ step, scene.date ≠ .next step) :
    resolveScene previous scene = scene.zipWith (fun v p ↦ v.resolve p) previous := by
  rw [resolveScene]
  split
  · exact absurd ‹_› (h _)
  · rfl

/-- A scene in the year of the scene before, a step after its date. -/
structure FollowsBy (step : DateStep) (scene : SceneSheet SceneValue) : Prop where
  year : scene.year = .same
  date : scene.date = .next step

/-- **One scene**: its texts are read as the day a step after the day that was read before. -/
theorem parseDate?_resolveScene {previous : SceneHead} {d e : Date}
    (hd : parseDate? previous.year previous.date = some d) {step : DateStep}
    {scene : SceneSheet SceneValue} (hscene : FollowsBy step scene)
    (hstep : Date.IsStep step d e) :
    parseDate? (resolveScene previous scene).year (resolveScene previous scene).date =
      some e := by
  have hstepDate : stepDate previous step .same =
      (if e.year ≠ d.year then e.yearText else previous.year, e.monthDay) := by
    simp only [stepDate, hd, Date.step?_eq_some_iff.2 hstep, SceneValue.followsDate, and_true]
    rfl
  rw [resolveScene_of_next previous hscene.date, hscene.year, hstepDate]
  refine parseDate?_monthDay ?_
  -- the year is written anew if it changes, and else it is the text that was read before
  show yearOfText? (if e.year ≠ d.year then e.yearText else previous.year) = some e.year
  split
  · exact yearOfText?_yearText e
  · rename_i hyear
    rw [not_not.1 hyear]
    exact yearOfText?_of_parseDate? hd

/-- A row of scenes goes where its steps lead. -/
theorem parseDate?_of_reaches {head : SceneHead} {start : Date}
    (hstart : parseDate? head.year head.date = some start) {steps : List DateStep}
    {scenes : List (SceneSheet SceneValue)} (hscenes : List.Forall₂ FollowsBy steps scenes)
    {d : Date} (hd : start.Reaches steps d) :
    parseDate? (scenes.foldl resolveScene head).year (scenes.foldl resolveScene head).date =
      some d := by
  induction hscenes generalizing head start with
  | nil =>
    cases hd
    exact hstart
  | cons hscene _ ih =>
    cases hd with
    | cons hstep hsteps => exact ih (parseDate?_resolveScene hstart hscene hstep) hsteps

/-- **A row of scenes that follow one another by steps goes through the days of the calendar** to
which the steps lead, from any texts that are read as a day: after every scene, as long as the
calendar has the day, the texts are read as that day. Days and weeks lead to the day that is that
many days after the start, in whatever order they stand. -/
theorem parseDate?_foldl_resolveScene {head : SceneHead} {start : Date}
    (hstart : parseDate? head.year head.date = some start) {steps : List DateStep}
    {scenes : List (SceneSheet SceneValue)} (hscenes : List.Forall₂ FollowsBy steps scenes) :
    (∀ n d, start.Reaches (steps.take n) d →
      parseDate? ((scenes.take n).foldl resolveScene head).year
        ((scenes.take n).foldl resolveScene head).date = some d) ∧
    (.month ∉ steps → ∀ d : Date,
      d.dayNumber = start.dayNumber + (steps.count .day + 7 * steps.count .week : ℕ) →
      parseDate? (scenes.foldl resolveScene head).year (scenes.foldl resolveScene head).date =
        some d) :=
  ⟨fun n _ hd ↦ parseDate?_of_reaches hstart (List.forall₂_take n hscenes) hd,
    fun hmonth _ hd ↦ parseDate?_of_reaches hstart hscenes (Date.reaches_of_dayNumber hmonth hd)⟩

/-- From a New Year's Eve that is spelled freely: two months and a day lead by way of a leap day to
the first of March, and a week, a day and a week to the fifteenth of January. -/
theorem parseDate?_foldl_resolveScene_leap_year :
    let head : SceneHead := ⟨"wide", "quay", "+2019", " 12/ 31 ", "dusk"⟩
    let scene (step : DateStep) : SceneSheet SceneValue :=
      ⟨.same, .empty, .same, .next step, .text "noon"⟩
    let after (steps : List DateStep) := (steps.map scene).foldl resolveScene head
    let months := after [.month, .month, .day]
    let weeks := after [.week, .day, .week]
    parseDate? months.year months.date = some ⟨2020, 3, 1, by decide⟩ ∧
      parseDate? weeks.year weeks.date = some ⟨2020, 1, 15, by decide⟩ := by
  intro head scene after months weeks
  have hstart : parseDate? head.year head.date = some ⟨2019, 12, 31, by decide⟩ := by decide
  have hscenes (steps : List DateStep) : List.Forall₂ FollowsBy steps (steps.map scene) :=
    List.forall₂_map_right_iff.2 (List.forall₂_same.2 fun _ _ ↦ ⟨rfl, rfl⟩)
  have hmonths : Date.Reaches ⟨2019, 12, 31, by decide⟩ [.month, .month, .day]
      ⟨2020, 3, 1, by decide⟩ :=
    .cons (e := ⟨2020, 1, 31, by decide⟩) (by decide)
      (.cons (e := ⟨2020, 2, 29, by decide⟩) (by decide) (.cons (by decide) (.nil _)))
  have hfirst := (parseDate?_foldl_resolveScene hstart (hscenes [.month, .month, .day])).1 3 _
    hmonths
  have hsecond := (parseDate?_foldl_resolveScene hstart (hscenes [.week, .day, .week])).2
    (by decide) ⟨2020, 1, 15, by decide⟩ (by decide)
  rw [List.take_of_length_le (by decide)] at hfirst
  exact ⟨hfirst, hsecond⟩

end Manuscript
