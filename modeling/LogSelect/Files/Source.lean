import LogSelect.Files.Path
import LogSelect.Text.Quoted
import LogSelect.Text.Utf8

/-!
What a path leads to: a file, the files of a directory, or an error.
-/

namespace LogSelect

inductive FileError where
  | absent
  | notADirectory
  | isADirectory
  | nameTooLong
  | denied
  /-- The path holds the character of code zero, which no name can hold. -/
  | badName
  deriving DecidableEq, Repr

def FileError.reason : FileError → String
  | .absent => "[Errno 2] No such file or directory"
  | .notADirectory => "[Errno 20] Not a directory"
  | .isADirectory => "[Errno 21] Is a directory"
  | .nameTooLong => "[Errno 36] File name too long"
  | .denied => "[Errno 13] Permission denied"
  | .badName => "embedded null byte"

def FileError.describe (e : FileError) (path : Path) : String :=
  e.reason ++ ": " ++ quoted path.text

/-- A file as it can be read: the whole of it, or the lines in front of a failure.  In front of a
failure to open it there are none. -/
inductive Stream where
  | whole (bytes : List Nat)
  | broken (lines : List String) (error : FileError)
  deriving DecidableEq, Repr

/-- What stands at a path.  Of a directory only the files count, each with its name. -/
inductive Content where
  | file (bytes : List Nat)
  | directory (files : List (String × List Nat))
  /-- A file that cannot be read to its end. -/
  | brokenFile (lines : List String) (error : FileError)
  /-- A directory with files that can be read to their ends and others that cannot. -/
  | mixedDirectory (files : List (String × Stream))
  /-- A directory that cannot be listed. -/
  | closedDirectory (error : FileError)

abbrev Source := Except FileError Content

def strictText? (bytes : List Nat) : Option String :=
  (Utf8.decode? bytes).map fun cs => String.ofList (unifyLineEnds cs)

def lossyLines (bytes : List Nat) : List String :=
  textLines (Utf8.decodeLossy bytes)

end LogSelect
