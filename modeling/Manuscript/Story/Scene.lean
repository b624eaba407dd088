import Manuscript.Text.Blank

/-!
# Scene sheets

A scene states where and when it plays in five facets: camera, stage, year, date and time. The same
five-field sheet holds the facets as written (`SceneValue`), as resolved texts, and as the marks of
a transition table.
-/

namespace Manuscript

/-- The facets of a scene. -/
inductive Facet where
  | camera
  | stage
  | year
  | date
  | time
  deriving DecidableEq, Repr

/-- All facets, in table order. -/
def Facet.all : List Facet := [.camera, .stage, .year, .date, .time]

/-- One value for each facet of a scene. -/
structure SceneSheet (α : Type) where
  camera : α
  stage : α
  year : α
  date : α
  time : α
  deriving DecidableEq, Repr

namespace SceneSheet

variable {α β γ : Type}

/-- The sheet with the same value for every facet. -/
def replicate (a : α) : SceneSheet α := ⟨a, a, a, a, a⟩

/-- The value of a facet. -/
def get (s : SceneSheet α) : Facet → α
  | .camera => s.camera
  | .stage => s.stage
  | .year => s.year
  | .date => s.date
  | .time => s.time

/-- The sheet with another value for one facet. -/
def set (s : SceneSheet α) : Facet → α → SceneSheet α
  | .camera, a => { s with camera := a }
  | .stage, a => { s with stage := a }
  | .year, a => { s with year := a }
  | .date, a => { s with date := a }
  | .time, a => { s with time := a }

/-- The values in table order. -/
def toList (s : SceneSheet α) : List α :=
  [s.camera, s.stage, s.year, s.date, s.time]

/-- The sheet with every value mapped. -/
def map (f : α → β) (s : SceneSheet α) : SceneSheet β :=
  ⟨f s.camera, f s.stage, f s.year, f s.date, f s.time⟩

/-- Two sheets combined facet by facet. -/
def zipWith (f : α → β → γ) (s : SceneSheet α) (t : SceneSheet β) : SceneSheet γ :=
  ⟨f s.camera t.camera, f s.stage t.stage, f s.year t.year, f s.date t.date, f s.time t.time⟩

@[simp]
theorem get_set_self (s : SceneSheet α) (f : Facet) (a : α) : (s.set f a).get f = a := by
  cases f <;> rfl

theorem get_set_of_ne (s : SceneSheet α) {f g : Facet} (a : α) (h : g ≠ f) :
    (s.set f a).get g = s.get g := by
  cases f <;> cases g <;> simp_all [get, set]

@[simp]
theorem get_map (f : α → β) (s : SceneSheet α) (g : Facet) : (s.map f).get g = f (s.get g) := by
  cases g <;> rfl

@[simp]
theorem get_zipWith (f : α → β → γ) (s : SceneSheet α) (t : SceneSheet β) (g : Facet) :
    (s.zipWith f t).get g = f (s.get g) (t.get g) := by
  cases g <;> rfl

end SceneSheet

/-- The steps by which a scene's date can follow the date of the scene before. -/
inductive DateStep where
  | day
  | week
  | month
  deriving DecidableEq, Repr

/-- One facet of a scene as it is written. -/
inductive SceneValue where
  /-- Nothing is written. -/
  | empty
  /-- A literal text. -/
  | text (s : String)
  /-- As in the scene before. -/
  | same
  /-- One step after the scene before. -/
  | next (step : DateStep)
  deriving DecidableEq, Repr

namespace SceneValue

/-- Reads a facet, blanks around it aside. The words for `same` and for the steps are exact. -/
def ofText (raw : String) : SceneValue :=
  let token := Text.trim raw
  if token = "" then empty
  else if token = "-" ∨ token = "same" ∨ token = "同" then same
  else if token = "next-day" ∨ token = "翌日" then next .day
  else if token = "next-week" ∨ token = "翌週" then next .week
  else if token = "next-month" ∨ token = "翌月" then next .month
  else text token

/-- The literal text, if the facet has one. -/
def literal? : SceneValue → Option String
  | text s => some s
  | _ => none

end SceneValue

end Manuscript
