import HealthAlert.Failure.Basic
import HealthAlert.Json.Reader
import HealthAlert.Text.Quotation
import HealthAlert.Text.Surrogates
import HealthAlert.Text.Utf8

/-!
# Internal errors

An `InternalError` is an error that no part of the service turns into an answer of its own. It
reaches whoever called, with the name of its type and a message.
-/

namespace HealthAlert

/-- An error that nothing handles. -/
inductive InternalError where
  /-- A file holds bytes that are not UTF-8. -/
  | undecodable (fault : Text.Utf8.Fault)
  /-- A text holds a lone surrogate where bytes are needed. -/
  | unencodable (fault : Text.EncodingFault)
  /-- A JSON text holds an integer with too many digits. -/
  | longInteger (digits : Nat)
  /-- An integer with too many digits was to be written. -/
  | unwritableInteger
  /-- A header of digits that do not spell a number in ASCII. -/
  | notANumeral (text : String)
  /-- A secret was compared with a text that is not ASCII. -/
  | incomparableSecret
  /-- An answer holds a number that JSON cannot write. -/
  | nonFiniteAnswer
  /-- An answer does not fit its own form, with this many issues. -/
  | unfitAnswer (issues : Nat)
  /-- A file or directory is missing. -/
  | fileNotFound (path : String)
  /-- A directory is in the place of a file. -/
  | isADirectory (path : String)
  /-- A directory cannot be made because a file is in its place. -/
  | fileExists (path : String)
  /-- A path goes through a file. -/
  | notADirectory (path : String)
  /-- A file may not be read, or a directory may not be searched. -/
  | permissionDenied (path : String)
  /-- A path, or a name in it, is longer than any that can exist. -/
  | nameTooLong (path : String)
  /-- A path holds a null character. -/
  | nullInPath
  deriving Repr

namespace InternalError

/-- The name of the error's type. -/
def typeName : InternalError → String
  | .undecodable _ => "UnicodeDecodeError"
  | .unencodable _ => "UnicodeEncodeError"
  | .longInteger _ => "ValueError"
  | .unwritableInteger => "ValueError"
  | .notANumeral _ => "ValueError"
  | .incomparableSecret => "TypeError"
  | .nonFiniteAnswer => "ValueError"
  | .unfitAnswer _ => "ResponseValidationError"
  | .fileNotFound _ => "FileNotFoundError"
  | .isADirectory _ => "IsADirectoryError"
  | .fileExists _ => "FileExistsError"
  | .notADirectory _ => "NotADirectoryError"
  | .permissionDenied _ => "PermissionError"
  | .nameTooLong _ => "OSError"
  | .nullInPath => "ValueError"

/-- The error in words; of an unfit answer the first line. -/
def message : InternalError → String
  | .undecodable fault => fault.message
  | .unencodable fault => fault.message
  | .longInteger digits => Json.longIntegerMessage digits
  | .unwritableInteger => unwritableIntegerMessage
  | .notANumeral s => "invalid literal for int() with base 10: " ++ Text.quotation s
  | .incomparableSecret => "comparing strings with non-ASCII characters is not supported"
  | .nonFiniteAnswer => "Out of range float values are not JSON compliant"
  | .unfitAnswer issues => toString issues ++ " validation errors:"
  | .fileNotFound path => "[Errno 2] No such file or directory: " ++ Text.quotation path
  | .isADirectory path => "[Errno 21] Is a directory: " ++ Text.quotation path
  | .fileExists path => "[Errno 17] File exists: " ++ Text.quotation path
  | .notADirectory path => "[Errno 20] Not a directory: " ++ Text.quotation path
  | .permissionDenied path => "[Errno 13] Permission denied: " ++ Text.quotation path
  | .nameTooLong path => "[Errno 36] File name too long: " ++ Text.quotation path
  | .nullInPath => "embedded null byte"

end InternalError

/-- How something may fail: with a failure of the service, or with an internal error. -/
inductive Trouble where
  | failure (f : Failure)
  | internal (e : InternalError)
  deriving Repr

end HealthAlert
