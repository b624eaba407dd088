import Manuscript.Text.Split

/-!
# A disk

A disk holds files and folders. A `Place` is the list of names from the top of the disk; the top
itself is always a folder. A path is text that leads to a place step by step from the working
folder, or from the top if it begins with a slash. Every step starts in a folder, so a path through
something that is missing or is a file leads nowhere, even if `..` would lead back; and so does a
path that no file can have, for one of its names is too long or holds the null character.

`get?` is the view. Writing a file changes what lies at one place (`get?_put`), and nothing is ever
removed.
-/

namespace Manuscript

/-! ### Paths -/

namespace Path

/-- Whether a path starts at the top of the disk. -/
def isAbsolute (path : String) : Bool :=
  path.toList.head? = some '/'

/-- A path continued by another one, which takes its place if it is absolute. A path continued by
nothing ends in a slash. -/
def join (path next : String) : String :=
  if isAbsolute next || path = "" then next
  else if path.toList.getLast? = some '/' then path ++ next
  else path ++ "/" ++ next

/-- The steps of a path. A slash at the end asks for a folder, as a step to itself does. -/
def steps (path : String) : List String :=
  let names := (Text.fields '/' path).filter (· ≠ "")
  if path.toList.getLast? = some '/' then names ++ ["."] else names

/-- Whether every name in a path can be the name of a file: it is not too long, and no character is
the null character. -/
def isUsable (path : String) : Bool :=
  !path.toList.contains (Char.ofNat 0) && (steps path).all fun name ↦ name.utf8ByteSize ≤ 255

/-- The last name of a path. -/
def fileName (path : String) : String :=
  ((Text.fields '/' path).getLast?).getD ""

/-- A file's name without an ending, unless the ending is another one or nothing else is left. -/
def stem? (ending file : String) : Option String :=
  match ending.toList.reverse.isPrefixOf? file.toList.reverse with
  | some [] => none
  | some rest => some (String.ofList rest.reverse)
  | none => none

end Path

/-! ### Places -/

/-- What lies at a place. -/
inductive Entry where
  | folder
  | file (bytes : ByteArray)

instance : DecidableEq Entry
  | .folder, .folder => .isTrue rfl
  | .folder, .file _ => .isFalse nofun
  | .file _, .folder => .isFalse nofun
  | .file a, .file b =>
    if h : a.data = b.data then .isTrue (congrArg Entry.file (ByteArray.ext h))
    else .isFalse fun heq ↦ h (congrArg ByteArray.data (Entry.file.inj heq))

/-- The names from the top of the disk to a place. -/
abbrev Place := List String

/-- The files and folders of a disk, and the working folder. -/
structure Disk where
  entries : List (Place × Entry)
  here : Place
  deriving DecidableEq

namespace Disk

/-- What lies at a place. -/
def get? (d : Disk) (p : Place) : Option Entry :=
  if p = [] then some .folder else d.entries.lookup p

/-- The disk with an entry put at a place. -/
def put (d : Disk) (p : Place) (e : Entry) : Disk :=
  { d with entries := (p, e) :: d.entries.filter fun x ↦ x.1 ≠ p }

/-- Whether a folder lies at a place. -/
def isFolderAt (d : Disk) (p : Place) : Bool :=
  d.get? p = some .folder

/-- The place that steps lead to from a place. The last step may lead to nothing. -/
def walk (d : Disk) : Place → List String → Option Place
  | p, [] => some p
  | p, s :: ss =>
    if d.isFolderAt p then
      walk d (if s = "." then p else if s = ".." then p.dropLast else p ++ [s]) ss
    else none

/-- Where a path starts. -/
def origin (d : Disk) (path : String) : Place :=
  if Path.isAbsolute path then [] else d.here

/-- The place that a path leads to. The empty path and one that is not usable lead nowhere. -/
def locate? (d : Disk) (path : String) : Option Place :=
  if path ≠ "" ∧ Path.isUsable path then d.walk (d.origin path) (Path.steps path) else none

/-- What lies at the end of a path. -/
def find? (d : Disk) (path : String) : Option Entry :=
  (d.locate? path).bind d.get?

/-! ### Reading -/

/-- The bytes of the file at the end of a path. -/
def read? (d : Disk) (path : String) : Option ByteArray :=
  match d.find? path with
  | some (.file bytes) => some bytes
  | _ => none

/-- Whether a path leads to a file. -/
def isFile (d : Disk) (path : String) : Bool :=
  (d.read? path).isSome

/-- Whether a path leads to a folder. -/
def isFolder (d : Disk) (path : String) : Bool :=
  d.find? path = some .folder

/-- The text of the file at the end of a path, if its bytes are one. -/
def readText? (d : Disk) (path : String) : Option String :=
  (d.read? path).bind String.fromUTF8?

/-- The name of a file that lies directly in the folder at a place. -/
def nameIn? (p : Place) (x : Place × Entry) : Option String :=
  match x.2 with
  | .file _ => if x.1.dropLast = p then x.1.getLast? else none
  | .folder => none

/-- The names of the files directly in the folder at the end of a path, in order. -/
def fileNames (d : Disk) (path : String) : List String :=
  match d.locate? path with
  | some p => (d.entries.filterMap (nameIn? p)).mergeSort fun a b ↦ decide (a ≤ b)
  | none => []

/-! ### Writing -/

/-- Follows steps, making the folders that are missing, and says where they lead. A file on the way
is in the way. -/
def makeSteps? (d : Disk) : Place → List String → Option Disk
  | _, [] => some d
  | p, s :: ss =>
    if s = "." then makeSteps? d p ss
    else if s = ".." then makeSteps? d p.dropLast ss
    else
      match d.get? (p ++ [s]) with
      | some .folder => makeSteps? d (p ++ [s]) ss
      | some (.file _) => none
      | none => makeSteps? (d.put (p ++ [s]) .folder) (p ++ [s]) ss

/-- Makes the folder at the end of a path, and all folders on the way. -/
def makeFolder? (d : Disk) (path : String) : Option Disk :=
  if Path.isUsable path then d.makeSteps? (d.origin path) (Path.steps path) else none

/-- Writes a text to the file at the end of a path. Its folder must be there, and no folder may lie
in its place. -/
def write? (d : Disk) (path text : String) : Option Disk :=
  match d.locate? path with
  | some p => if d.isFolderAt p then none else some (d.put p (.file text.toUTF8))
  | none => none

/-! ### The view -/

theorem lookup_filter_ne {p q : Place} (h : q ≠ p) (es : List (Place × Entry)) :
    (es.filter fun x ↦ decide (x.1 ≠ p)).lookup q = es.lookup q := by
  induction es with
  | nil => rfl
  | cons e es ih =>
    by_cases he : e.1 = p
    · have hqe : (q == e.1) = false := by
        rw [beq_eq_false_iff_ne, he]
        exact h
      rw [List.filter_cons_of_neg (by simp [he]), ih, List.lookup_cons, hqe]
    · rw [List.filter_cons_of_pos (by simp [he]), List.lookup_cons, List.lookup_cons, ih]

/-- Putting an entry changes what lies at its place and nothing else. The top stays a folder. -/
theorem get?_put (d : Disk) (p : Place) (e : Entry) (q : Place) :
    (d.put p e).get? q = if q ≠ [] ∧ q = p then some e else d.get? q := by
  by_cases hq : q = []
  · simp [get?, hq]
  · by_cases hp : q = p
    · subst hp
      simp [get?, put, hq]
    · have hqp : (q == p) = false := beq_eq_false_iff_ne.2 hp
      simp only [get?, put, hq, hp, if_false, List.lookup_cons, hqp, and_false]
      exact lookup_filter_ne hp d.entries

end Disk

end Manuscript
