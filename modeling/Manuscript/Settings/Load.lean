import Manuscript.Disk
import Manuscript.Settings.Decode
import Manuscript.Text.Utf8
import Manuscript.Toml.Read

/-!
# Loading settings

The defaults are overridden by the user's settings file, and that by the project's; both may be
missing. A settings file that is asked for takes the place of both and must be there. Settings that
cannot be used are refused.
-/

namespace Manuscript.Settings

/-- The file name of a project's settings. -/
def fileName : String := "storybuilder.toml"

/-- The ending of settings files. -/
def ending : String := ".toml"

/-- Settings that cannot be put together. -/
def unreadable : Error := .config "Failed to build configuration"

/-- Settings of the wrong kind. -/
def unusable : Error := .config "Failed to parse configuration"

/-- The path of the settings file that a path means: itself, or with the ending added if there is no
such file. -/
def find? (d : Disk) (path : String) : Option String :=
  if d.isFile path then some path
  else if d.isFile (path ++ ending) then some (path ++ ending)
  else none

/-- Reads a layer from a settings file, which must have the ending of one. Bytes that are no text do
not matter where any text may stand. -/
def readFile (d : Disk) (path : String) : Except Error Datum :=
  let layer := ((d.read? path).map Text.Utf8.decode).bind Toml.read?
  match Path.stem? ending (Path.fileName path), layer with
  | some _, some layer => .ok layer
  | _, _ => .error unreadable

/-- The settings of layers over the defaults. -/
def ofLayers (layers : List Datum) : Except Error Settings := do
  match ofDatum? (Layer.stack layers) with
  | some settings =>
    settings.validate
    return settings
  | none => .error unusable

/-- The path of a user's settings file, given the path of the user's home. -/
def userPath (home : String) : String :=
  Path.join (Path.join home ".config/storybuilder") fileName

/-- The settings of a project for a user with the given home, if there is one. -/
def load (d : Disk) (home : Option String) (root : String) : Except Error Settings := do
  let paths := (home.map userPath).toList ++ [Path.join root fileName]
  ofLayers (← (paths.filterMap (find? d)).mapM (readFile d))

/-- The settings that the file at a path asks for. -/
def fromFile (d : Disk) (path : String) : Except Error Settings :=
  match find? d path with
  | some path => do ofLayers [← readFile d path]
  | none => .error unreadable

end Manuscript.Settings
