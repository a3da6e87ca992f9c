import HealthAlert.Text.Utf8

/-!
# Text files

The text of a file is read as UTF-8, and every way to end a line — a carriage return, a line
feed, or both — is read as one line feed.
-/

namespace HealthAlert.Text

/-- The characters with every line end a line feed, put after `read`, which is in reverse. -/
def unifyLineEndsFrom (read : List Char) : List Char → List Char
  | [] => read.reverse
  | '\r' :: '\n' :: rest => unifyLineEndsFrom ('\n' :: read) rest
  | '\r' :: rest => unifyLineEndsFrom ('\n' :: read) rest
  | c :: rest => unifyLineEndsFrom (c :: read) rest

/-- The characters with every line end a line feed. -/
def unifyLineEnds (cs : List Char) : List Char :=
  unifyLineEndsFrom [] cs

/-- The text of a file, or the first place where it is not UTF-8. -/
def ofFile (bytes : List UInt8) : Except Utf8.Fault (List Char) :=
  (Utf8.decode bytes).map unifyLineEnds

end HealthAlert.Text
