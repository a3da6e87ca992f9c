import HealthAlert.Failure.Internal
import HealthAlert.Files.Tree

/-!
# Reading and writing files

`FileTree.read` gives the content of the file at a path, and `FileTree.save` puts a content
there, in a directory that exists. `FileTree.makeDirectory` makes a directory and those that are
missing on the way to it. All of them fail by the name of what stands in the way.
-/

namespace HealthAlert.FileTree

/-- The error when a path leads nowhere. -/
def deadEndError (p : Path) : DeadEnd → InternalError
  | .missing => .fileNotFound p.text
  | .blocked => .notADirectory p.text
  | .barred => .permissionDenied p.text
  | .tooLong => .nameTooLong p.text
  | .unspeakable => .nullInPath

/-- The content of the file at a path. -/
def read (t : FileTree) (p : Path) : Except InternalError (List UInt8) :=
  match t.lookup p with
  | .file bytes => .ok bytes
  | .locked => .error (.permissionDenied p.text)
  | .directory => .error (.isADirectory p.text)
  | .missing => .error (.fileNotFound p.text)
  | .deadEnd d => .error (deadEndError p d)

/-- The tree with a content in the file at a path. -/
def save (t : FileTree) (p : Path) (bytes : List UInt8) : Except InternalError FileTree :=
  match t.locate p with
  | .error d => .error (deadEndError p d)
  | .ok at' =>
    if t.hasDirectory at' then .error (.isADirectory p.text) else .ok (t.put at' bytes)

/-- The tree with a directory at a path, in a directory that exists. -/
def makeOne (t : FileTree) (p : Path) : Except InternalError FileTree :=
  match t.locate p with
  | .error d => .error (deadEndError p d)
  | .ok at' =>
    match t.nodeAt at' with
    | .directory => .ok t
    | .file _ | .locked => .error (.fileExists p.text)
    | _ => .ok (t.putDirectory at')

/-- The tree with a directory to which parts lead, the last of them in front, and with those that
were missing on the way to it. -/
def makeAlong (t : FileTree) (start : Path.Start) : List String → Except InternalError FileTree
  | [] => t.makeOne ⟨start, []⟩
  | last :: before =>
    let p : Path := ⟨start, (last :: before).reverse⟩
    match t.locate p with
    | .error .missing =>
      match makeAlong t start before with
      | .error e => .error e
      | .ok t => t.makeOne p
    | _ => t.makeOne p

/-- The tree with a directory at a path, and with those that were missing on the way to it. -/
def makeDirectory (t : FileTree) (p : Path) : Except InternalError FileTree :=
  t.makeAlong p.start p.parts.reverse

/-- The tree with a content in the file at a path, whose directory is made when it is missing. -/
def write (t : FileTree) (p : Path) (bytes : List UInt8) : Except InternalError FileTree :=
  match t.makeDirectory p.parent with
  | .error e => .error e
  | .ok t => t.save p bytes

end HealthAlert.FileTree
