import Accelerator.Json.Error
import Accelerator.Sink

/-!
# Why a check fails

The errors of the self-test and of the comparison of two files, each with the cause behind it.
-/

namespace Accelerator

/-- Why the contents of a file cannot be had. -/
inductive FileError where
  | missing
  | notADirectory
  | isADirectory
  | notUtf8
  | other (reason : String)
deriving DecidableEq, Repr

/-- The error in words. -/
def FileError.message : FileError → String
  | missing => "No such file or directory (os error 2)"
  | notADirectory => "Not a directory (os error 20)"
  | isADirectory => "Is a directory (os error 21)"
  | notUtf8 => "stream did not contain valid UTF-8"
  | other reason => reason

/-- Why a check fails. -/
inductive CheckError where
  | json (cause : ReadError)
  | read (path : String) (cause : FileError)
  | parse (path : String) (cause : ReadError)
  | write (cause : SinkError)
deriving Repr

namespace CheckError

/-- The cause in words. -/
def causeMessage : CheckError → String
  | json cause => cause.message
  | read _ cause => cause.message
  | parse _ cause => cause.message
  | write cause => cause.message

/-- The error in words. -/
def message : CheckError → String
  | json cause => "json: " ++ cause.message
  | read path cause => "cannot read " ++ path ++ ": " ++ cause.message
  | parse path cause => "cannot parse " ++ path ++ ": " ++ cause.message
  | write cause => "write: " ++ cause.message

end CheckError

end Accelerator
