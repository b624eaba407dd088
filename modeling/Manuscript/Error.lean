/-!
# Errors

Only missing or unusable input is an error; unknown keys, verbs and instructions are passed over. An
error is a cause, and `message` gives its words. A report about an error adds the part of the
program that met it and a place in a file.
-/

namespace Manuscript

/-- Why something could not be done. -/
inductive Error where
  /-- A setting is missing, malformed or out of range. -/
  | config (reason : String)
  /-- A file cannot be read as text. -/
  | fileRead (path : String) (detail : Option String)
  /-- A folder cannot be listed. -/
  | directoryRead (path : String) (detail : Option String)
  /-- A file's YAML is malformed or does not have the expected form. -/
  | yamlParse (path : String) (detail : Option String)
  | missingOrder (path : String)
  | invalidOrder (reason : String)
  /-- An element of the order manifest has no file. -/
  | missingElement (element : String)
  | noStoryRecords
  | noActions
  | noResolvedActions
  /-- A format was given nothing to make its text from. -/
  | emptyInput (format : String)
  /-- Nothing was left to show in a format. -/
  | emptyOutput (format : String)
  | directoryCreation (folder : String)
  | fileWrite (path : String)
  deriving DecidableEq, Repr

namespace Error

/-- The words of a detail, behind a colon. -/
def detailText : Option String → String
  | some d => ": " ++ d
  | none => ""

/-- The words of an error. -/
def message : Error → String
  | config reason => reason
  | fileRead path d => "Failed to read " ++ path ++ detailText d
  | directoryRead path d => "Failed to read directory " ++ path ++ detailText d
  | yamlParse path d => "Failed to parse YAML in " ++ path ++ detailText d
  | missingOrder path => "Order manifest not found: " ++ path
  | invalidOrder reason => "Invalid order manifest: " ++ reason
  | missingElement element => "Element listed in order manifest has no file: " ++ element
  | noStoryRecords => "No story records to compile"
  | noActions => "Base conversion produced no actions"
  | noResolvedActions => "Resolved action stream is empty"
  | emptyInput format => "No input records for " ++ format ++ " projection"
  | emptyOutput format => format ++ " projection produced no records"
  | directoryCreation folder => "Failed to create output directory: " ++ folder
  | fileWrite path => "Failed to write file: " ++ path

/-- The part of the program that meets an error. -/
def area : Error → String
  | config _ => "Configuration"
  | fileRead _ _ => "Loader"
  | directoryRead _ _ => "Loader"
  | yamlParse _ _ => "Loader"
  | missingOrder _ => "Loader"
  | invalidOrder _ => "Loader"
  | missingElement _ => "Loader"
  | noStoryRecords => "Compile"
  | noActions => "Compile"
  | noResolvedActions => "Compile"
  | emptyInput _ => "Projection"
  | emptyOutput _ => "Projection"
  | directoryCreation _ => "Output"
  | fileWrite _ => "Output"

/-- A report of an error met at a line of a file. -/
def report (e : Error) (line : Nat) (file : String) : String :=
  e.area ++ " Error: " ++ e.message ++ " at line " ++ Nat.repr line ++ " in " ++ file

/-- A report of an error under the program's name. -/
def fullReport (e : Error) (line : Nat) (file : String) : String :=
  "Storybuilder Error: " ++ e.report line file

end Error

end Manuscript
