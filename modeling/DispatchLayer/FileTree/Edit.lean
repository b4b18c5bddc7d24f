import DispatchLayer.FileTree

/-!
# Building file trees

Making directories with all that are missing on the way, placing files and links, and removing what
stands at a pathname.
-/

namespace DispatchLayer.FileTree

/-- Make each of these names a directory in the one before, unless it is one already. The location
reached comes with the tree. -/
def makeDirectoriesFrom (t : FileTree) :
    Location → List String → Except FileError (FileTree × Location)
  | here, [] => .ok (t, here)
  | here, name :: rest =>
    if name = "." then makeDirectoriesFrom t here rest
    else if name = ".." then makeDirectoriesFrom t here.dropLast rest
    else
      match t.placeIn here name with
      | .error e => .error e
      | .ok (.found loc) =>
        if t.isDirectory loc then makeDirectoriesFrom t loc rest else .error .notDirectory
      | .ok (.free dir name) =>
        makeDirectoriesFrom (t.set (dir ++ [name]) .directory) (dir ++ [name]) rest

/-- Make a directory. -/
def makeDirectories (t : FileTree) (path : String) : Except FileError FileTree := do
  return (← t.makeDirectoriesFrom [] (Pathname.ofText path).names).1

/-- Write a file, making the directories on the way to it. -/
def addFile (t : FileTree) (path : String) (content : ByteArray) : Except FileError FileTree := do
  let (t, _) ← t.makeDirectoriesFrom [] (Pathname.ofText path).names.dropLast
  t.write path content

/-- The location that a pathname names, without following a link that stands there. -/
def nameOf (t : FileTree) (path : String) : Except FileError Location :=
  let names := (Pathname.ofText path).names
  match names.getLast? with
  | none => .error .notFound
  | some last => do
    match ← t.followLinks false maxLinks [] names.dropLast true with
    | .found dir => return dir ++ [last]
    | .free _ _ => throw .notFound

/-- Put a symbolic link at a pathname. -/
def addLink (t : FileTree) (path target : String) : Except FileError FileTree := do
  return t.set (← t.nameOf path) (.link target)

/-- Remove what stands at a pathname, a directory with everything in it. -/
def remove (t : FileTree) (path : String) : Except FileError FileTree := do
  return t.erase (← t.nameOf path)

end DispatchLayer.FileTree
