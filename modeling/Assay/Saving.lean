import Assay.Text.Cut
import Assay.World

/-!
# Saving files

A file is saved in a directory that is made if it is not there, with all directories above it. A
path is a text of names between slashes. The directory above a path is the path without its last
name, where a name that is empty or a dot does not count.
-/
namespace Assay

namespace Saving

/-- The paths of the directories above a path, the nearest first, without the one that all paths
start in. -/
def above (path : String) : List String :=
  let names := (Text.cut (· = '/') path.toList).filter fun name => name ≠ [] ∧ name ≠ ['.']
  let root := if path.toList.head? = some '/' then ['/'] else []
  let prefixes := (List.range names.length).reverse.filter (0 < ·)
  prefixes.map fun count => String.ofList (root ++ ['/'].intercalate (names.take count))

/-- Make a directory, which may be there already. -/
def makeDirectory (path : String) : Act world (Except FileFault Unit) := do
  match ← World.makeDirectory path with
  | .error .alreadyExists =>
    if ← World.isDirectory path then pure (.ok ()) else pure (.error .alreadyExists)
  | outcome => pure outcome

/-- Make a directory and, where they are not there, those at the paths above it, the nearest
first. -/
def makeDirectories (path : String) : (above : List String) → Act world (Except FileFault Unit)
  | [] => makeDirectory path
  | parent :: above => do
    match ← makeDirectory path with
    | .error .missing =>
      match ← makeDirectories parent above with
      | .error fault => pure (.error fault)
      | .ok () => makeDirectory path
    | outcome => pure outcome

/-- The path of a file in a directory. -/
def join (directory name : String) : String :=
  if directory.toList.getLast? = some '/' then directory ++ name else directory ++ "/" ++ name

end Saving

/-- Save a text as a file in a directory. -/
def World.save (directory name text : String) : Act world (Except FileFault Unit) := do
  match ← Saving.makeDirectories directory (Saving.above directory) with
  | .error fault => pure (.error fault)
  | .ok () => World.write (Saving.join directory name) text

end Assay
