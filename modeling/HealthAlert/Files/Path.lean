/-!
# Paths

A path is where it starts and its parts between slashes, without empty parts and single dots. Two
spellings that differ only in those are one path; a part `..` stays, since where it leads depends
on the files.
-/

namespace HealthAlert

/-- Where a path starts. -/
inductive Path.Start where
  | workingDirectory
  | root
  /-- At the root, which exactly two slashes spell as well; they stay two. -/
  | doubleRoot
  deriving DecidableEq, Repr, Inhabited

/-- A path of a file or directory. -/
structure Path where
  start : Path.Start
  parts : List String
  deriving DecidableEq, Repr, Inhabited

namespace Path

/-- The slashes with which a path is written that starts somewhere. -/
def Start.text : Start → String
  | .workingDirectory => ""
  | .root => "/"
  | .doubleRoot => "//"

/-- Where a path starts by the number of slashes in front of it. -/
def Start.ofSlashes : Nat → Start
  | 0 => .workingDirectory
  | 2 => .doubleRoot
  | _ => .root

/-- The path that a text spells. -/
def ofText (s : String) : Path where
  start := .ofSlashes (s.toList.takeWhile (· == '/')).length
  parts := ((s.toList.splitOn '/').map String.ofList).filter fun p => p != "" && p != "."

/-- The path as text; the path without start and parts is a single dot. -/
def text (p : Path) : String :=
  match p.start, p.parts with
  | .workingDirectory, [] => "."
  | start, parts => start.text ++ String.intercalate "/" parts

/-- The path of something inside a directory. -/
def child (p : Path) (name : String) : Path :=
  { p with parts := p.parts ++ [name] }

/-- The path of the directory in which something is; a path without parts is its own. -/
def parent (p : Path) : Path :=
  { p with parts := p.parts.dropLast }

/-- The path and those of all that is on the way to it, the start first. -/
def along (p : Path) : List Path :=
  (List.range (p.parts.length + 1)).map fun n => { p with parts := p.parts.take n }

/-- The last part of a path. -/
def name (p : Path) : String :=
  p.parts.getLast?.getD ""

end Path

end HealthAlert
