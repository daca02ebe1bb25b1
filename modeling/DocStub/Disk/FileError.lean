/-
  Why an operation on files is refused.
-/
import DocStub.Text.Basic

namespace DocStub

/-- Why the file system refused. -/
inductive FileError where
  | notFound
  | exists_
  | notDirectory
  | isDirectory
  | nameTooLong
  | nulInName
  | notUtf8
  deriving DecidableEq, Repr

namespace FileError

/-- The wording of the operating system. -/
def message : FileError → String
  | notFound => "No such file or directory (os error 2)"
  | exists_ => "File exists (os error 17)"
  | notDirectory => "Not a directory (os error 20)"
  | isDirectory => "Is a directory (os error 21)"
  | nameTooLong => "File name too long (os error 36)"
  | nulInName => "file name contained an unexpected NUL byte"
  | notUtf8 => "stream did not contain valid UTF-8"

end FileError

end DocStub
