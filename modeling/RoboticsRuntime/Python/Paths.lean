import Mathlib.Data.List.SplitOn
import Mathlib.Data.String.Basic

/-!
# Pure POSIX paths

`pathlib.PurePosixPath`: the parts of a path, its text and the suffix of its name.
-/

namespace RoboticsRuntime.Python

/-- `value.split("/")`. -/
def splitSlash (value : String) : List String := (value.toList.splitOn '/').map String.ofList

/-- `PurePosixPath`. The second slash of exactly two leading ones is not kept. -/
structure PurePosixPath where
  absolute : Bool
  parts : List String
  deriving DecidableEq, Repr

/-- `PurePosixPath(value)`. -/
def purePosixPath (value : String) : PurePosixPath where
  absolute := value.toList.head? = some '/'
  parts := (splitSlash value).filter fun part => part ≠ "" ∧ part ≠ "."

namespace PurePosixPath

/-- `path.as_posix()`. -/
def asPosix (path : PurePosixPath) : String :=
  if path.absolute then "/" ++ String.intercalate "/" path.parts
  else if path.parts = [] then "."
  else String.intercalate "/" path.parts

/-- `path.name`. -/
def name (path : PurePosixPath) : String := path.parts.getLast?.getD ""

/-- `path.parent`. -/
def parent (path : PurePosixPath) : PurePosixPath := { path with parts := path.parts.dropLast }

end PurePosixPath

/-- The characters after the last dot, when the dot is neither the first nor the last character. -/
def extension (name : List Char) : Option (List Char) :=
  let tail := name.reverse.takeWhile (· ≠ '.')
  if 0 < tail.length ∧ tail.length + 1 < name.length then some tail.reverse else none

/-- `path.suffix` of a name. -/
def suffix (name : String) : String :=
  match extension name.toList with
  | some tail => String.ofList ('.' :: tail)
  | none => ""

/-- `path.stem` of a name. -/
def stem (name : String) : String :=
  String.ofList (name.toList.take (name.toList.length - (suffix name).toList.length))

end RoboticsRuntime.Python
