import Manuscript.Error
import Manuscript.Text.Split

/-!
# Formats

The formats in which a manuscript is built. The prose formats are made from the cleaned action
stream, the others from the story records.
-/

namespace Manuscript

/-- The formats, in the order in which they are built. -/
inductive Format where
  /-- Titles and outlines, grouped by kind of element. -/
  | outline
  /-- The plots of the elements, in manuscript order. -/
  | plot
  /-- A screenplay. -/
  | script
  /-- Prose. -/
  | novel
  /-- Scene transitions and what happens in every scene. -/
  | info
  deriving DecidableEq, Repr

namespace Format

/-- All formats, in the order in which they are built. -/
def all : List Format := [outline, plot, script, novel, info]

def name : Format → String
  | outline => "outline"
  | plot => "plot"
  | script => "script"
  | novel => "novel"
  | info => "info"

/-- Whether the format is made from the action stream. -/
def needsActions : Format → Bool
  | outline => false
  | plot => false
  | script => true
  | novel => true
  | info => true

/-- Reads a format's name, in any case of ASCII letters. -/
def ofText? (s : String) : Option Format :=
  all.find? fun f ↦ f.name = Text.asciiLower s

/-- The records of a format, unless nothing is left to show. -/
def nonEmpty {α : Type} (f : Format) (records : List α) : Except Error (List α) :=
  if records.isEmpty then .error (.emptyOutput f.name) else .ok records

end Format

end Manuscript
