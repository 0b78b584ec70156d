/-
What a run can read from its surroundings: files below a working folder, and named variables.

A path is a walk through folders, name by name, so a path that leaves a folder again asks for the
folder all the same: nothing is found at `a/../b` where there is no folder `a`.

* `Found`, `Files` — what is found at a path, or why nothing is;
* `Files.readText` — the text of a file, or the reason why there is none;
* `Files.writeFault?` — why a file cannot be made at a path;
* `Variables` — the values of named variables.
-/
import GatewayProbe.Text.Bytes

namespace GatewayProbe

/-- Why nothing is found at a path, or why a file cannot be read or written. -/
inductive FileFault where
  | missing
  | isFolder
  /-- The path goes through a file as if it were a folder. -/
  | notFolder
  | nameTooLong
  /-- The path holds a null character, which ends a path for the system. -/
  | nullInside
  | notText
  deriving DecidableEq, Repr

/-- The wording of a fault. -/
def FileFault.message : FileFault → String
  | .missing => "No such file or directory (os error 2)"
  | .isFolder => "Is a directory (os error 21)"
  | .notFolder => "Not a directory (os error 20)"
  | .nameTooLong => "File name too long (os error 36)"
  | .nullInside => "file name contained an unexpected NUL byte"
  | .notText => "stream did not contain valid UTF-8"

/-- What is found at a path. -/
inductive Found where
  | file (bytes : List UInt8)
  | folder
  | absent (fault : FileFault)
  deriving DecidableEq

/-- What is found at each path. -/
abbrev Files := String → Found

/-- The values of named variables. -/
abbrev Variables := String → Option String

namespace Files

/-- Something is found at a path. -/
def contains (files : Files) (path : String) : Bool :=
  match files path with
  | .file _ | .folder => true
  | .absent _ => false

/-- The text of the file at a path. -/
def readText (files : Files) (path : String) : Except FileFault String :=
  match files path with
  | .file bytes => match Text.utf8? bytes with
    | some text => .ok text
    | none => .error .notText
  | .folder => .error .isFolder
  | .absent fault => .error fault

/-- Why nothing can be found at a path, whatever there is. A path has at most 4095 bytes. -/
def pathFault? (path : String) : Option FileFault :=
  if path.toList.contains '\x00' then some .nullInside
  else if path = "" then some .missing
  else if 4096 ≤ path.utf8ByteSize then some .nameTooLong
  else none

/-- The last name of a path. -/
def lastName (path : String) : String :=
  String.ofList ((Text.dropEndWhile (· = '/') path.toList).reverse.takeWhile (· ≠ '/')).reverse

/-- The path of the folder that holds the last name of a path. -/
def parent (path : String) : String :=
  match Text.dropEndWhile (· ≠ '/') (Text.dropEndWhile (· = '/') path.toList) with
  | [] => "."
  | before => String.ofList before

/-- Why a file cannot be made or replaced at a path, if so. A slash at the end, or a last name that
leads nowhere else, asks for a folder. -/
def writeFault? (files : Files) (path : String) : Option FileFault :=
  (pathFault? path).or <|
    match files (parent path) with
    | .absent fault => some fault
    | .file _ => some .notFolder
    | .folder =>
      if path.endsWith "/" || [".", ".."].contains (lastName path) then some .isFolder
      else match files path with
        | .file _ | .absent .missing => none
        | .folder => some .isFolder
        | .absent fault => some fault

end Files
end GatewayProbe
