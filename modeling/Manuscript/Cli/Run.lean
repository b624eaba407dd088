import Manuscript.Cli.Command
import Manuscript.Cli.Show
import Manuscript.Project.Build
import Manuscript.Settings.Load

/-!
# Carrying out commands

A command turns a disk into an outcome, which is what the program prints and its exit code, and the
disk as it leaves it. An error prints nothing and exits with one; arguments that cannot be used exit
with two.
-/

namespace Manuscript.Cli

/-- What the program has done. -/
structure Outcome where
  exit : Nat
  output : String
  deriving DecidableEq, Repr

/-- The program's name and version. -/
def versionText : String := "storybuilder 0.2.0"

/-- How the program is used. -/
def helpText : String :=
  linesText
    ["Compile Markdown story fragments into manuscripts", "",
     "Usage: storybuilder [-v] build [PROJECT] [-o] [-p] [-s] [-n] [-i] [--config FILE]",
     "       storybuilder [-v] dump [PROJECT] [--format human|json]",
     "       storybuilder [-v] tags [PROJECT] [--format human|json] [--config FILE]"]

/-- The outcome of a result. -/
def outcome : Except Error String → Outcome
  | .ok output => ⟨0, output⟩
  | .error _ => ⟨1, ""⟩

/-- The settings for a project, from the given file or else from the places of a user with the given
home. -/
def settingsFor (d : Disk) (home : Option String) (project : String) (file : Option String) :
    Except Error Settings :=
  match file with
  | some path => Settings.fromFile d path
  | none => Settings.load d home project

/-- A stream in a form. -/
def showStream : Form → List Action → String
  | .human, actions => linesText (actions.map itemLine)
  | .json, actions => streamJson actions ++ "\n"

/-- A tag table in a form. -/
def showTags : Form → Table String → String
  | .human, t => tableLines t
  | .json, t => t.toDatum.pretty ++ "\n"

/-- Carries out a command for a user with the given home. -/
def perform (d : Disk) (home : Option String) : Command → Outcome × Disk
  | .build root formats file =>
    match settingsFor d home root file with
    | .error e => (outcome (.error e), d)
    | .ok settings =>
      let (result, d) := (Project.mk root).build settings (Format.select formats) d
      (outcome (result.map fun summary ↦ linesText summary.written), d)
  | .dump root form => (outcome (((Project.mk root).loadActions d).map (showStream form)), d)
  | .tags root form file =>
    let table := do
      let settings ← settingsFor d home root file
      (Project.mk root).loadResolver d settings.tags
    (outcome (table.map fun r ↦ showTags form r.tags), d)

/-- Runs the program with its arguments for a user with the given home. -/
def run (d : Disk) (home : Option String) (args : List String) : Outcome × Disk :=
  match parse args with
  | .ok command => perform d home command
  | .error .usage => (⟨2, ""⟩, d)
  | .error .help => (⟨0, helpText⟩, d)
  | .error .version => (⟨0, versionText ++ "\n"⟩, d)

end Manuscript.Cli
