import Manuscript.Error
import Manuscript.Page.Format
import Manuscript.Report.Count
import Manuscript.Tag.Names

/-!
# Settings

A project is built with settings in three sections: where the output goes, the measures of the
paper, and how tags are used. `validate` says which settings can be used: paper has columns and
rows, a reference has a sigil, and the output has a folder. Of two faults the first in this order is
reported.
-/

namespace Manuscript

/-- Where the output of a build goes. -/
structure BuildSettings where
  /-- The folder of the output, relative to the project. -/
  outputFolder : String
  outlineFile : String
  plotFile : String
  scriptFile : String
  novelFile : String
  infoFile : String
  /-- The file of the data report. -/
  dataFile : String
  deriving DecidableEq, Repr

/-- The file of a format. -/
def BuildSettings.fileFor (b : BuildSettings) : Format → String
  | .outline => b.outlineFile
  | .plot => b.plotFile
  | .script => b.scriptFile
  | .novel => b.novelFile
  | .info => b.infoFile

/-- All settings of a project. -/
structure Settings where
  build : BuildSettings
  count : PaperSettings
  tags : TagSettings
  deriving DecidableEq, Repr

/-- Where the output goes unless something else is set. -/
def BuildSettings.default : BuildSettings where
  outputFolder := "build"
  outlineFile := "outline.md"
  plotFile := "plot.md"
  scriptFile := "script.md"
  novelFile := "novel.md"
  infoFile := "info.md"
  dataFile := "data.md"

/-- Paper of twenty columns and twenty rows. -/
def PaperSettings.default : PaperSettings := ⟨20, 20⟩

/-- Nine copies of a mob, a neutral "I", and a dollar sign in front of references. -/
def TagSettings.default : TagSettings := ⟨9, "私", "$"⟩

/-- The settings that hold unless something else is set. -/
def Settings.default : Settings := ⟨.default, .default, .default⟩

/-- Paper must have columns and rows. -/
def PaperSettings.validate (p : PaperSettings) : Except Error Unit :=
  if p.columns = 0 then .error (.config "count.columns must be positive")
  else if p.rows = 0 then .error (.config "count.rows must be positive")
  else .ok ()

/-- Without a sigil every key would match inside ordinary words. -/
def TagSettings.validate (t : TagSettings) : Except Error Unit :=
  if t.sigil = "" then .error (.config "tags.tag_prefix must not be empty") else .ok ()

/-- The output must have a folder. -/
def BuildSettings.validate (b : BuildSettings) : Except Error Unit :=
  if Text.isBlankText b.outputFolder then .error (.config "build.output_dir must not be empty")
  else .ok ()

/-- Whether the settings can be used, and if not, the first fault. -/
def Settings.validate (s : Settings) : Except Error Unit := do
  s.count.validate
  s.tags.validate
  s.build.validate

end Manuscript
