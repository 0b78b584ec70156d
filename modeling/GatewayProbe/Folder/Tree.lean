/-
Files in folders.

A `FileTree` holds files under the names that lead to them from the root. Relative paths start at a
working folder two levels below it, whose own name no path can spell.

* `FileTree.step` — the walk along one name;
* `FileTree.look` — what is found at a path;
* `FileTree.write` — the files once one of them is written;
* `FileTree.ofList` — a working folder that holds given files and nothing else.
-/
import GatewayProbe.Folder

namespace GatewayProbe

/-- Files, each with the names that lead to it from the root. -/
structure FileTree where
  files : List (List String × List UInt8)

namespace FileTree

/-- The working folder. -/
def working : List String := ["tmp", ""]

/-- The folders that stand without a file in them. -/
def standing : List (List String) :=
  [working, ["bin"], ["dev"], ["etc"], ["home"], ["lib"], ["mnt"], ["opt"], ["proc"], ["root"],
   ["run"], ["sbin"], ["srv"], ["sys"], ["usr"], ["var"]]

/-- The file that is always empty. -/
def emptyFile : List String := ["dev", "null"]

/-- What is found where names lead from the root. -/
def foundAt (tree : FileTree) (place : List String) : Found :=
  match tree.files.lookup place with
  | some bytes => .file bytes
  | none =>
    if place = emptyFile then .file []
    else if (standing ++ tree.files.map Prod.fst).any place.isPrefixOf then .folder
    else .absent .missing

/-- Goes from a place along a name, which has no more than 255 bytes. -/
def step (tree : FileTree) (place : List String) (name : String) :
    Except FileFault (List String) :=
  if tree.foundAt place ≠ .folder then .error .notFolder
  else if name = "." then .ok place
  else if name = ".." then .ok place.dropLast
  else if 255 < name.utf8ByteSize then .error .nameTooLong
  else match tree.foundAt (place ++ [name]) with
    | .absent fault => .error fault
    | _ => .ok (place ++ [name])

/-- The names that a path goes along. -/
def names (path : String) : List String := (Text.splitAtChar '/' path).filter (· ≠ "")

/-- Where a path starts. -/
def start (path : String) : List String := if path.startsWith "/" then [] else working

/-- What is found at each path. -/
def look (tree : FileTree) : Files := fun path =>
  match Files.pathFault? path with
  | some fault => .absent fault
  | none => match (names path).foldlM tree.step (start path) with
    | .error fault => .absent fault
    | .ok place => match tree.foundAt place with
      | .file bytes => if path.endsWith "/" then .absent .notFolder else .file bytes
      | found => found

/-- The files once one is written at a path; unchanged if it cannot be. -/
def write (tree : FileTree) (path : String) (bytes : List UInt8) : FileTree :=
  if (tree.look.writeFault? path).isSome then tree
  else match (names path).dropLast.foldlM tree.step (start path) with
    | .error _ => tree
    | .ok folder =>
      let place := folder ++ [Files.lastName path]
      if place = emptyFile then tree
      else ⟨(place, bytes) :: tree.files.filter (·.1 ≠ place)⟩

/-- A working folder that holds the given files and nothing else. -/
def ofList (entries : List (String × List UInt8)) : FileTree :=
  ⟨entries.map fun entry => (working ++ (names entry.1).filter (· ≠ "."), entry.2)⟩

end FileTree
end GatewayProbe
