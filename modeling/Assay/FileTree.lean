import Assay.Error
import Assay.Text.Cut

/-!
# Trees of files

A tree of files in memory: directories and files under places, which are lists of names from the
root. A path is a text of names between slashes that leads from the root, or from the current
directory, to a place. A dot stays where it is and two dots lead to the directory above; every
name on the way has to be that of a directory, and what is asked of the last name is for the
operation to say. Names and paths have a greatest length in bytes, and the character of code zero
is in none of them.
-/
namespace Assay

/-- Directories other than the root, and files with their texts. -/
structure FileTree where
  directories : List (List String)
  files : List (List String × String)
  /-- The directory in which paths without a slash at the front start. -/
  current : List String

namespace FileTree

/-- The most bytes of a name. -/
def longestName : Nat := 255

/-- The most bytes of a path. -/
def longestPath : Nat := 4095

/-- Whether there is a file at a place. -/
def isFile (tree : FileTree) (place : List String) : Bool :=
  tree.files.any (·.1 = place)

/-- Whether there is a directory at a place. -/
def holdsDirectory (tree : FileTree) (place : List String) : Bool :=
  place.isEmpty || tree.directories.contains place

/-- The names along a path. -/
def namesOf (path : String) : List String :=
  ((Text.cut (· = '/') path.toList).filter (· ≠ [])).map String.ofList

/-- Where a path starts. -/
def start (tree : FileTree) (path : String) : List String :=
  if path.toList.head? = some '/' then [] else tree.current

/-- The directory that a name leads to from a directory. -/
def enter (tree : FileTree) (place : List String) (name : String) :
    Except FileFault (List String) :=
  if name = "." then .ok place
  else if name = ".." then .ok place.dropLast
  else if longestName < name.utf8ByteSize then .error .nameTooLong
  else
    let place := place ++ [name]
    if tree.holdsDirectory place then .ok place
    else if tree.isFile place then .error .notDirectory
    else .error .missing

/-- Why a text is no path. -/
def faultOf? (path : String) : Option FileFault :=
  if '\x00' ∈ path.toList then some .endsEarly
  else if longestPath < path.utf8ByteSize then some .nameTooLong
  else if path = "" then some .missing
  else none

/-- The directory that a path leads to. -/
def walk (tree : FileTree) (path : String) : Except FileFault (List String) :=
  match faultOf? path with
  | some fault => .error fault
  | none => (namesOf path).foldlM tree.enter (tree.start path)

/-- The place that a path names, whose last name need not be in the tree. A path that ends in dots
or in nothing names no place of its own. -/
def locate (tree : FileTree) (path : String) : Except FileFault (Option (List String)) := do
  if let some fault := faultOf? path then .error fault
  let names := namesOf path
  let directory ← names.dropLast.foldlM tree.enter (tree.start path)
  match names.getLast? with
  | none => .ok none
  | some name =>
    if name = "." ∨ name = ".." then .ok none
    else if longestName < name.utf8ByteSize then .error .nameTooLong
    else .ok (some (directory ++ [name]))

/-- The tree with one more directory. -/
def makeDirectory (tree : FileTree) (path : String) : Except FileFault FileTree := do
  match ← tree.locate path with
  | none => .error .alreadyExists
  | some place =>
    if tree.holdsDirectory place || tree.isFile place then .error .alreadyExists
    else .ok { tree with directories := tree.directories ++ [place] }

/-- Whether a path leads to a directory. -/
def isDirectory (tree : FileTree) (path : String) : Bool :=
  match tree.walk path with
  | .ok _ => true
  | .error _ => false

/-- The tree with a text as a file, which takes the place of a file of the same name. -/
def write (tree : FileTree) (path text : String) : Except FileFault FileTree := do
  match ← tree.locate path with
  | none => .error .isDirectory
  | some place =>
    if tree.holdsDirectory place then .error .isDirectory
    else .ok { tree with files := tree.files.filter (·.1 ≠ place) ++ [(place, text)] }

/-- What stands directly in a directory: files with their texts, and directories without. -/
def entries (tree : FileTree) (directory : List String) : List (String × Option String) :=
  let within := fun place : List String =>
    if place.dropLast = directory then place.getLast? else none
  tree.files.filterMap (fun (place, text) => (within place).map (·, some text)) ++
    tree.directories.filterMap fun place => (within place).map (·, none)

end FileTree
end Assay
