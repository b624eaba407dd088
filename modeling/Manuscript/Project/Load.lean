import Manuscript.Disk
import Manuscript.Project.FrontMatter
import Manuscript.Project.Manifest
import Manuscript.Story.Codec
import Manuscript.Tag.Names

/-!
# Loading a project

A project is a folder with an order manifest, the element files it refers to, reference files in a
folder for each kind, and two optional tables of names. Elements are loaded in manuscript order, the
book first, and reference files in the order of their names. The first file that cannot be loaded
decides the error.
-/

namespace Manuscript

/-- A project, by the path of its folder. -/
structure Project where
  root : String
  deriving DecidableEq, Repr

namespace Project

/-- The file name of the order manifest. -/
def orderFile : String := "order.yml"

/-- The file name of the table of mobs. -/
def mobsFile : String := "mobs.yml"

/-- The file name of the table of fixed terms. -/
def fixturesFile : String := "fixtures.yml"

/-- The ending of element and reference files. -/
def ending : String := ".md"

/-- The text of a file that is there. -/
def readFile (d : Disk) (path : String) : Except Error String :=
  match d.readText? path with
  | some text => .ok text
  | none => .error (.fileRead path none)

/-- Reads the fields of a file with front matter. -/
def readFields {α : Type} (ofEntries? : List (Datum × Datum) → Option α) (d : Disk)
    (path : String) : Except Error α := do
  let es ← FrontMatter.read path (← readFile d path)
  match ofEntries? es with
  | some fields => .ok fields
  | none => .error (.yamlParse path none)

/-! ### Elements -/

/-- The path of an element file. -/
def elementPath (p : Project) (e : Element) (name : String) : String :=
  let file := name ++ ending
  match e.folder? with
  | some folder => Path.join (Path.join p.root folder) file
  | none => Path.join p.root file

/-- Loads an element. -/
def loadElement (p : Project) (d : Disk) (e : Element) (name : String) :
    Except Error StoryRecord :=
  let path := p.elementPath e name
  if d.isFile path then
    (readFields StoryFields.ofEntries? d path).map fun fields ↦ ⟨e, name, fields⟩
  else .error (.missingElement (e.name ++ "/" ++ name ++ " (" ++ path ++ ")"))

/-- The references of the manifest. -/
def loadOrder (p : Project) (d : Disk) : Except Error (List OrderEntry) := do
  let path := Path.join p.root orderFile
  if d.isFile path then Manifest.read path (← readFile d path)
  else .error (.missingOrder path)

/-- Loads the story: the book, and the elements of the manifest. -/
def loadStory (p : Project) (d : Disk) : Except Error Story := do
  let order ← p.loadOrder d
  let book ← p.loadElement d .book "book"
  let elements ← order.mapM fun entry ↦ p.loadElement d entry.element entry.name
  return book :: elements

/-! ### Names -/

/-- Loads the reference files of a kind. -/
def loadNames (p : Project) (d : Disk) (kind : NameKind) : Except Error (List NameRecord) :=
  let folder := Path.join p.root kind.folder
  if d.isFolder folder then
    ((d.fileNames folder).filterMap (Path.stem? ending)).mapM fun name ↦
      (readFields NameFields.ofEntries? d (Path.join folder (name ++ ending))).map fun fields ↦
        ⟨kind, name, fields⟩
  else .ok []

/-- The text of a key or value of a table of names, which is a text, a number or a truth value. -/
def nameText? : Datum → Option String
  | .text s => some s
  | .bool b => some (Datum.boolText b)
  | d => Yaml.numberText? d

/-- An entry of a table of names. -/
def nameEntry? (e : Datum × Datum) : Option (String × String) := do
  some (← nameText? e.1, ← nameText? e.2)

/-- The table of names that a datum holds. Entries that are no names are passed over, and so is
anything that is not a mapping. -/
def nameTableOf : Datum → Table String
  | .map es => .ofList (es.filterMap nameEntry?)
  | _ => .empty

/-- Loads a table of names, which is empty if there is no such file. -/
def loadNameTable (p : Project) (d : Disk) (file : String) : Except Error (Table String) := do
  let path := Path.join p.root file
  if d.isFile path then
    match Yaml.read? (← readFile d path) with
    | some value => .ok (nameTableOf value)
    | none => .error (.yamlParse path none)
  else .ok .empty

/-- Loads everything that tag tables are built from. -/
def loadSources (p : Project) (d : Disk) : Except Error NameSources := do
  let records ← NameKind.all.mapM (p.loadNames d)
  let mobs ← p.loadNameTable d mobsFile
  let fixtures ← p.loadNameTable d fixturesFile
  return ⟨records.flatten, mobs, fixtures⟩

end Project

end Manuscript
