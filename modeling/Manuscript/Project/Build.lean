import Manuscript.Compile
import Manuscript.Page.Info
import Manuscript.Page.Novel
import Manuscript.Page.Outline
import Manuscript.Page.Plot
import Manuscript.Project.Load
import Manuscript.Report.Data
import Manuscript.Settings.Basic

/-!
# Building a project

A build loads the story and the names, compiles the story if a selected format needs it, and writes
the selected formats in their order and then the data report. What cannot be loaded or compiled ends
the build before anything is written. A format that cannot be made or written is left out; the rest
and the data report are written all the same, and the first such error is the result. An error in
writing the data report comes before all of these.
-/

namespace Manuscript

/-- The formats to build. If none is asked for, all are. -/
def Format.select (requested : List Format) : List Format :=
  all.filter fun f ↦ requested.isEmpty || f ∈ requested

/-- What the formats of a build are made from. -/
structure Sources where
  story : Story
  resolver : Resolver
  /-- The cleaned stream, which is empty if no format needs it. -/
  actions : List Action

/-- A format's text, and its body if that is counted. -/
structure Rendered where
  text : String
  body : Option String
  deriving DecidableEq, Repr

/-- A format made from the sources. The prose formats have a body. -/
def Sources.render (s : Sources) : Format → Except Error Rendered
  | .outline => (Outline.project s.resolver s.story).map fun rs ↦ ⟨Outline.render rs, none⟩
  | .plot => (Plot.project s.resolver s.story).map fun rs ↦ ⟨Plot.render rs, none⟩
  | .script =>
    (Script.genre.project s.resolver s.actions).map fun rs ↦
      ⟨Script.genre.render rs, some (Script.genre.body rs)⟩
  | .novel =>
    (Novel.genre.project s.resolver s.actions).map fun rs ↦
      ⟨Novel.genre.render rs, some (Novel.genre.body rs)⟩
  | .info =>
    (SceneInfo.project s.resolver s.actions).map fun rs ↦ ⟨SceneInfo.render rs, none⟩

/-- What a build has written. -/
structure BuildSummary where
  /-- The paths of the files, in the order in which they were written. -/
  written : List String
  /-- The counts of the formats that have a body. -/
  counts : List (Format × CountResult)

/-- A build so far. -/
structure BuildProgress where
  disk : Disk
  summary : BuildSummary
  /-- The first error of a format. -/
  firstError : Option Error

namespace Disk

/-- Writes a text to a file in a folder, which is made if it is missing, and says where. -/
def writeOutput (d : Disk) (folder file text : String) : Except Error (String × Disk) :=
  match d.makeFolder? folder with
  | none => .error (.directoryCreation folder)
  | some made =>
    let path := Path.join folder file
    match made.write? path text with
    | none => .error (.fileWrite path)
    | some written => .ok (path, written)

/-- The disk after an attempt to write a text to a file in a folder. A folder that was made
stays. -/
def afterAttempt (d : Disk) (folder : String) : Disk :=
  (d.makeFolder? folder).getD d

end Disk

namespace Project

/-- Loads the resolver of a project. -/
def loadResolver (p : Project) (d : Disk) (settings : TagSettings) : Except Error Resolver :=
  (p.loadSources d).map fun sources ↦ .build sources settings

/-- Loads the cleaned stream of a project. -/
def loadActions (p : Project) (d : Disk) : Except Error (List Action) := do
  cleanedActions (← p.loadStory d)

/-- Loads what the formats are made from. -/
def loadBuild (p : Project) (d : Disk) (settings : Settings) (formats : List Format) :
    Except Error Sources := do
  let story ← p.loadStory d
  let resolver ← p.loadResolver d settings.tags
  let actions ← if formats.any Format.needsActions then cleanedActions story else .ok []
  return ⟨story, resolver, actions⟩

/-- The folder of a project's output. -/
def outputFolder (p : Project) (settings : Settings) : String :=
  Path.join p.root settings.build.outputFolder

/-- Makes and writes one format. -/
def writeFormat (p : Project) (settings : Settings) (sources : Sources) (b : BuildProgress)
    (f : Format) : BuildProgress :=
  let folder := p.outputFolder settings
  match sources.render f with
  | .error e => { b with firstError := b.firstError.or (some e) }
  | .ok page =>
    match b.disk.writeOutput folder (settings.build.fileFor f) page.text with
    | .error e =>
      { b with disk := b.disk.afterAttempt folder, firstError := b.firstError.or (some e) }
    | .ok (path, disk) =>
      { b with
        disk := disk
        summary :=
          { written := b.summary.written ++ [path]
            counts := b.summary.counts
              ++ (page.body.map fun body ↦ (f, CountResult.ofText settings.count body)).toList } }

/-- The data report of a build. -/
def dataReport (sources : Sources) (counts : List (Format × CountResult)) : String :=
  DataReport.render (Contents.project sources.resolver sources.story) counts
    (DataReport.verbCounts sources.actions)

/-- Writes the data report and says how the build ended. -/
def finishBuild (p : Project) (settings : Settings) (sources : Sources) (b : BuildProgress) :
    Except Error BuildSummary × Disk :=
  let folder := p.outputFolder settings
  match b.disk.writeOutput folder settings.build.dataFile (dataReport sources b.summary.counts) with
  | .error e => (.error e, b.disk.afterAttempt folder)
  | .ok (path, disk) =>
    match b.firstError with
    | some e => (.error e, disk)
    | none => (.ok { b.summary with written := b.summary.written ++ [path] }, disk)

/-- Builds formats of a project. The result comes with the disk as the build leaves it. -/
def build (p : Project) (settings : Settings) (formats : List Format) (d : Disk) :
    Except Error BuildSummary × Disk :=
  match p.loadBuild d settings formats with
  | .error e => (.error e, d)
  | .ok sources =>
    p.finishBuild settings sources
      (formats.foldl (p.writeFormat settings sources) ⟨d, ⟨[], []⟩, none⟩)

end Project

end Manuscript
