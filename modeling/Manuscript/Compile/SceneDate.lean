import Manuscript.Calendar
import Manuscript.Story.Scene
import Manuscript.Text.Number
import Manuscript.Text.Split
import Manuscript.Word

/-!
# Resolving a scene's facets

A scene's facets are resolved against the resolved facets of the scene before. A facet that is the
same takes the previous text. A date that follows the previous one by a step is computed on the
calendar; it takes the year along if the year is not written, and it stays as it was if the
previous date is no day of the calendar or the step leaves the calendar.
-/

namespace Manuscript

/-- Reads a year: a signed word of 32 bits. -/
def yearOfText? (s : String) : Option Int :=
  (Text.signed? 10 (Text.trim s).toList).filter (Word.fitsSigned 32)

/-- Reads a month or a day: an unsigned word of 32 bits. -/
def dayNumberOfText? (s : String) : Option Nat :=
  (Text.unsigned? 10 (Text.trim s).toList).filter fun n ↦ Word.fitsUnsigned 32 n

/-- The calendar day that a year and a date `month/day` name, if they name one. -/
def parseDate? (year date : String) : Option Date := do
  let y ← yearOfText? year
  let (month, day) ← Text.splitOnce "/" (Text.trim date)
  Date.ofYmd? y (← dayNumberOfText? month) (← dayNumberOfText? day)

/-- The date of a day, as `month/day` without leading zeros. -/
def Date.monthDay (d : Date) : String :=
  Nat.repr d.month ++ "/" ++ Nat.repr d.day

/-- The year of a day. -/
def Date.yearText (d : Date) : String :=
  Text.ofInt d.year

/-- The day a step later. -/
def Date.step? (d : Date) : DateStep → Option Date
  | .day => d.addDays? 1
  | .week => d.addDays? 7
  | .month => d.nextMonth?

/-- The facets of a scene as texts. -/
abbrev SceneHead := SceneSheet String

/-- The facets before the first scene. -/
def SceneHead.blank : SceneHead := .replicate ""

/-- A facet against the same facet of the scene before. Only dates have steps; a step written for
another facet leaves it the same. -/
def SceneValue.resolve (previous : String) : SceneValue → String
  | .empty => ""
  | .text s => s
  | .same => previous
  | .next _ => previous

/-- Whether a step of the date may take the year along. -/
def SceneValue.followsDate : SceneValue → Bool
  | .empty => true
  | .same => true
  | _ => false

/-- The year and the date a step after the scene before. -/
def stepDate (previous : SceneHead) (step : DateStep) (year : SceneValue) : String × String :=
  let written := year.resolve previous.year
  match parseDate? previous.year previous.date with
  | none => (written, previous.date)
  | some base =>
    match base.step? step with
    | none => (written, previous.date)
    | some later =>
      (if later.year ≠ base.year ∧ year.followsDate then later.yearText else written,
        later.monthDay)

/-- The facets of a scene against those of the scene before. -/
def resolveScene (previous : SceneHead) (scene : SceneSheet SceneValue) : SceneHead :=
  let plain := scene.zipWith (fun v p ↦ v.resolve p) previous
  match scene.date with
  | .next step =>
    let (year, date) := stepDate previous step scene.year
    { plain with year := year, date := date }
  | _ => plain

end Manuscript
