/-!
What is found under paths. Files are known by the paths that lead to them, and at one moment: a
program that reads them again later works on another value.
-/

namespace WorldScripts

inductive ReadFault where
  | noSuchFile
  /-- The path leads through something that is not a directory. -/
  | notADirectory
  | isADirectory
  | nameTooLong
  /-- The path has a character in it that ends a path for the system. -/
  | zeroInName
  | notText
  | refused (wording : String)
  deriving DecidableEq, Repr

def ReadFault.message : ReadFault → String
  | .noSuchFile => "No such file or directory (os error 2)"
  | .notADirectory => "Not a directory (os error 20)"
  | .isADirectory => "Is a directory (os error 21)"
  | .nameTooLong => "File name too long (os error 36)"
  | .zeroInName => "file name contained an unexpected NUL byte"
  | .notText => "stream did not contain valid UTF-8"
  | .refused wording => wording

/-- The text that is read from each path, or why there is none. -/
abbrev Files := String → Except ReadFault String

/-- There is something at the path, whether or not it can be read. -/
def Files.present (files : Files) (path : String) : Bool :=
  match files path with
  | .error .noSuchFile | .error .notADirectory | .error .nameTooLong | .error .zeroInName => false
  | .error .isADirectory | .error .notText | .error (.refused _) | .ok _ => true

end WorldScripts
