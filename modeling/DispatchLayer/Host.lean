import DispatchLayer.Event
import DispatchLayer.FileTree

/-!
# Hosts

A run needs little of the world around it: to find its way to a directory, to look for files, to
read and write texts, and to take down events. A host is a monad in which that can be done. File
trees make one (`Workspace`), so whatever is said about all hosts can be tried on values.
-/

namespace DispatchLayer

/-- What a run needs of the world. -/
class Host (m : Type → Type) where
  /-- The location that a pathname leads to, free of links. -/
  canonicalize : String → m (Except FileError Location)
  /-- The absolute pathname of a location. -/
  pathText : Location → m String
  /-- Whether a directory stands at a location. -/
  isDirectory : Location → m Bool
  /-- Whether an entry of a directory is a file or leads to one. -/
  isFileIn : Location → String → m Bool
  /-- The text of an entry of a directory. -/
  readTextIn : Location → String → m (Except FileError String)
  /-- The text of the file that a pathname leads to. -/
  readText : String → m (Except FileError String)
  /-- Write a file with this text. -/
  writeText : String → String → m (Except FileError Unit)
  /-- Take down an event. -/
  note : Event → m Unit

/-- A file tree with the events taken down so far. -/
structure Workspace where
  tree : FileTree
  log : List Event

/-- File trees are hosts: reading looks things up, and writing changes the tree. -/
instance : Host (StateM Workspace) where
  canonicalize path := return (← get).tree.canonicalize path
  pathText loc := return (← get).tree.pathText loc
  isDirectory loc := return (← get).tree.isDirectory loc
  isFileIn dir name := return (← get).tree.isFileIn dir name
  readTextIn dir name := return (← get).tree.readTextIn dir name
  readText path := return (← get).tree.readText path
  writeText path text := do
    let w ← get
    match w.tree.writeText path text with
    | .ok tree => set { w with tree }; return .ok ()
    | .error e => return .error e
  note e := modify fun w => { w with log := w.log ++ [e] }

end DispatchLayer
