import HealthAlert.Files.Path

/-!
# Files

A `FileTree` holds files and the directories that were made for themselves, each under its
location: the names that lead to it from the root. The directories on the way to any of them and
to the working directory exist too. Files may be kept from being read, and directories from being
searched. `FileTree.locate` follows a path to a location, and `FileTree.lookup` says what stands
there.
-/

namespace HealthAlert

/-- The names that lead to something from the root. -/
abbrev Location := List String

/-- Files and directories. -/
structure FileTree where
  workingDirectory : Location := ["work"]
  files : List (Location × List UInt8) := []
  directories : List Location := []
  /-- The files that may not be read, and the directories that may not be searched. -/
  barred : List Location := []
  /-- The directory of the lists that come with the service, whose content is known. -/
  packageData : String := "data"
  deriving Repr, Inhabited

/-- Why a path leads nowhere. -/
inductive DeadEnd where
  /-- A part before the end of the path is missing. -/
  | missing
  /-- A part before the end of the path is a file. -/
  | blocked
  /-- A directory before the end of the path may not be searched. -/
  | barred
  /-- The path or a part of it is too long. -/
  | tooLong
  /-- The path holds a null character. -/
  | unspeakable
  deriving DecidableEq, Repr

/-- Nobody can tell whether something is there. -/
def DeadEnd.hides : DeadEnd → Bool
  | .barred | .tooLong => true
  | .missing | .blocked | .unspeakable => false

/-- What a path leads to. -/
inductive Node where
  | file (bytes : List UInt8)
  /-- A file that may not be read. -/
  | locked
  | directory
  | missing
  | deadEnd (d : DeadEnd)
  deriving DecidableEq, Repr

namespace FileTree

/-- The content of the file at a location. -/
def file? (t : FileTree) (at' : Location) : Option (List UInt8) :=
  (t.files.find? (·.1 == at')).map (·.2)

/-- There is a directory at a location. -/
def hasDirectory (t : FileTree) (at' : Location) : Bool :=
  at'.isPrefixOf t.workingDirectory || t.directories.any (at'.isPrefixOf ·) ||
    t.files.any fun f => at'.isPrefixOf f.1 && at'.length < f.1.length

/-- What stands at a location. -/
def nodeAt (t : FileTree) (at' : Location) : Node :=
  if t.hasDirectory at' then .directory
  else
    match t.file? at' with
    | some bytes => if t.barred.contains at' then .locked else .file bytes
    | none => .missing

/-! ## Following paths -/

/-- The most bytes in the name of a file or directory. -/
def maxNameBytes : Nat := 255

/-- The most bytes in a path. -/
def maxPathBytes : Nat := 4095

/-- Where a path starts. -/
def startOf (t : FileTree) (p : Path) : Location :=
  match p.start with
  | .workingDirectory => t.workingDirectory
  | _ => []

/-- Where parts lead from a location. Only the last of them may be missing; above the root is the
root. -/
def follow (t : FileTree) (here : Location) : List String → Except DeadEnd Location
  | [] => .ok here
  | part :: rest =>
    match t.nodeAt here with
    | .directory =>
      if t.barred.contains here then .error .barred
      else if part = ".." then follow t here.dropLast rest
      else if maxNameBytes < part.utf8ByteSize then .error .tooLong
      else follow t (here ++ [part]) rest
    | .file _ | .locked => .error .blocked
    | _ => .error .missing

/-- Where a path leads. -/
def locate (t : FileTree) (p : Path) : Except DeadEnd Location :=
  if p.text.toList.contains '\x00' then .error .unspeakable
  else if maxPathBytes < p.text.utf8ByteSize then .error .tooLong
  else t.follow (t.startOf p) p.parts

/-- What a path leads to. -/
def lookup (t : FileTree) (p : Path) : Node :=
  match t.locate p with
  | .ok at' => t.nodeAt at'
  | .error d => .deadEnd d

/-! ## Changing the tree -/

/-- The tree with a file at a location. -/
def put (t : FileTree) (at' : Location) (bytes : List UInt8) : FileTree :=
  { t with files := (at', bytes) :: t.files.filter (·.1 != at') }

/-- The tree with a directory at a location. -/
def putDirectory (t : FileTree) (at' : Location) : FileTree :=
  { t with directories := at' :: t.directories }

/-- The tree without the file at a path; its directory stays. -/
def remove (t : FileTree) (p : Path) : FileTree :=
  match t.locate p with
  | .ok at' =>
    { t with
      files := t.files.filter (·.1 != at')
      directories := at'.dropLast :: t.directories }
  | .error _ => t

end FileTree

end HealthAlert
