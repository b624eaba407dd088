import Manuscript.Error
import Manuscript.Text.Blank
import Manuscript.Text.Lines
import Manuscript.Yaml.Read

/-!
# Front matter

An element or reference file may begin with a YAML mapping between two fences; the lines below are
its body. A fence is three hyphens with nothing but blanks behind them. Without a fence on the first
line, or without a second one, the whole file is body. The body lines are added to the mapping under
a key of their own.
-/

namespace Manuscript.FrontMatter

/-- The key of the body lines. -/
def bodyKey : String := "markdown"

/-- Whether a line is a fence. -/
def isFence (line : String) : Bool :=
  Text.trimEnd line = "---"

/-- A line without the carriage returns at its end. -/
def dropReturns (line : String) : String :=
  String.ofList ((line.toList.reverse.dropWhile (· = '\r')).reverse)

/-- The lines of a file. -/
def linesOf (text : String) : List String :=
  (Text.lines text).map dropReturns

/-- The lines between the fences and the lines of the body. -/
def split (lines : List String) : List String × List String :=
  match lines with
  | [] => ([], [])
  | first :: rest =>
    match isFence first, rest.dropWhile fun line ↦ !isFence line with
    | true, _ :: body => (rest.takeWhile fun line ↦ !isFence line, body)
    | _, _ => ([], lines)

/-- Reads the YAML between the fences, which must be a mapping. Blank text and nothing at all stand
for the empty mapping. -/
def mapping? (path yaml : String) : Except Error (List (Datum × Datum)) :=
  if Text.isBlankText yaml then .ok []
  else
    match Yaml.read? yaml with
    | some (.map es) => .ok es
    | some .null => .ok []
    | some _ => .error (.yamlParse path (some "front matter is not a mapping"))
    | none => .error (.yamlParse path none)

/-- Reads the entries of a file, with its body lines among them. The path is for messages only. -/
def read (path text : String) : Except Error (List (Datum × Datum)) :=
  let (header, body) := split (linesOf text)
  (mapping? path (String.intercalate "\n" header)).map fun es ↦
    Datum.put bodyKey (.ofTexts body) es

end Manuscript.FrontMatter
