import Manuscript.Cli.Run

/-!
# The program

The parts of the real disk that a command can see are read into a `Disk`, the command is carried out
on it, and what has changed is written back. The command sees the project's folder with everything
in it, the settings file that it asks for or the user's, and what lies beside the folders on the way
to its output.
-/

namespace Manuscript.Main

/-- The path from the top of the disk to a place. -/
def pathOf (p : Place) : String :=
  "/" ++ String.intercalate "/" p

/-- The bytes of the file at a place, if there is one that can be read. -/
def bytesAt? (p : Place) : IO (Option ByteArray) := do
  try
    return some (← IO.FS.readBinFile (pathOf p))
  catch _ =>
    return none

/-- The names in the folder at a place, if there is one that can be listed. -/
def namesAt? (p : Place) : IO (Option (List String)) := do
  try
    let folder ← IO.FS.realPath (pathOf p)
    return some ((← folder.readDir).toList.map IO.FS.DirEntry.fileName)
  catch _ =>
    return none

/-- What is at a place that is no folder: a file, which is taken to be empty unless its bytes are
asked for. -/
def fileAt (contents : Bool) (p : Place) : IO (List (Place × Entry)) := do
  return (← bytesAt? p).toList.map fun bytes ↦ (p, .file (if contents then bytes else .empty))

/-- The entries at a place and below it, so many levels deep. -/
def entriesAt (contents : Bool) : Nat → Place → IO (List (Place × Entry))
  | 0, p => do
    if (← namesAt? p).isSome then return [(p, .folder)]
    fileAt contents p
  | levels + 1, p => do
    match ← namesAt? p with
    | none => fileAt contents p
    | some names =>
      let below ← names.mapM fun name ↦ entriesAt contents levels (p ++ [name])
      return (p, .folder) :: below.flatten

/-- The number of levels of folders in a project that are looked into. -/
def depth : Nat := 64

/-- The places that a path goes through. -/
def placesOn (here : Place) (path : String) : List Place :=
  let start := if Path.isAbsolute path then [] else here
  let follow := fun (p : Place) (s : String) ↦
    if s = "." then p else if s = ".." then p.dropLast else p ++ [s]
  (Path.steps path).foldl (fun ps s ↦ follow (ps.head?.getD []) s :: ps) [start]

/-- The disk with what lies at the end of a path, if `whole`, and beside the places on the way. -/
def survey (d : Disk) (path : String) (whole : Bool) : IO Disk := do
  let places := placesOn d.here path
  let passing := places.flatMap fun p ↦ (List.range (p.length + 1)).map p.take
  let beside ← passing.eraseDups.mapM fun p ↦ entriesAt false 1 p
  let found ← if whole then entriesAt true depth (places.head?.getD []) else pure []
  return (beside.flatten ++ found).foldl
    (fun d e ↦
      match d.get? e.1, e.2 with
      | some (.file _), .file bytes => if bytes.isEmpty then d else d.put e.1 e.2
      | some _, _ => d
      | none, _ => d.put e.1 e.2) d

/-- The paths that a command reads for a user with the given home. -/
def pathsOf (home : Option String) : Cli.Command → List String
  | .build project _ settings => project :: (settings.or (home.map Settings.userPath)).toList
  | .dump project _ => [project]
  | .tags project _ settings => project :: (settings.or (home.map Settings.userPath)).toList

/-- The path of the folder that a command writes to, as far as its settings tell. -/
def outputOf (d : Disk) (home : Option String) : Cli.Command → Option String
  | .build project _ file =>
    (Cli.settingsFor d home project file).toOption.map (Project.mk project).outputFolder
  | _ => none

/-- The part of the disk that the arguments concern. -/
def diskFor (home : Option String) (args : List String) : IO Disk := do
  let here := Path.steps (← IO.currentDir).toString
  let empty : Disk := ⟨[], here⟩
  match Cli.parse args with
  | .error _ => return empty
  | .ok command =>
    let read ← (pathsOf home command).foldlM (fun d path ↦ survey d path true) empty
    match outputOf read home command with
    | some folder => survey read folder false
    | none => return read

/-- Writes what has changed to the real disk. -/
def writeBack (before after : Disk) : IO Unit := do
  for (p, e) in after.entries.reverse do
    if before.get? p ≠ some e then
      match e with
      | .folder => IO.FS.createDirAll (pathOf p)
      | .file bytes => IO.FS.writeBinFile (pathOf p) bytes

end Manuscript.Main

/-- The program. -/
def main (args : List String) : IO UInt32 := do
  let home ← IO.getEnv "HOME"
  let before ← Manuscript.Main.diskFor home args
  let (outcome, after) := Manuscript.Cli.run before home args
  Manuscript.Main.writeBack before after
  IO.print outcome.output
  return outcome.exit.toUInt32
