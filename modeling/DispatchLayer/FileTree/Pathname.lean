import DispatchLayer.FileTree.Error
import DispatchLayer.Text.Fields

/-!
# Pathnames

A pathname is a text that leads to a file: names between slashes, where several slashes count as
one. A slash at the end asks for a directory. What the names `.` and `..` mean is decided on the
way, not here.
-/

namespace DispatchLayer

/-- A pathname, taken apart. -/
structure Pathname where
  absolute : Bool
  /-- The names in order, `.` and `..` included. -/
  names : List String
  /-- Whether a slash follows the last name. -/
  wantsDirectory : Bool
  deriving DecidableEq, Repr

namespace Pathname

/-- Take a pathname apart. -/
def ofText (text : String) : Pathname :=
  let pieces := (Text.fields '/' text.toList).map String.ofList
  { absolute := text.toList.head? == some '/'
    names := pieces.filter fun p => !p.isEmpty
    wantsDirectory := text.toList.getLast? == some '/' }

/-- The longest name a directory holds, in bytes. -/
def maxNameBytes : Nat := 255

/-- The longest pathname that can be opened, in bytes. -/
def maxTextBytes : Nat := 4095

/-- Whether a name is too long for any directory. -/
def isTooLong (name : String) : Bool := maxNameBytes < name.utf8ByteSize

/-- Why a text cannot be a pathname at all. -/
def textError? (text : String) : Option FileError :=
  if text.toList.contains '\x00' then some .nulByte
  else if text.isEmpty then some .notFound
  else none

/-- The pathname of an entry of a directory. An empty pathname stands for the working directory. -/
def join (dir name : String) : String :=
  if dir.isEmpty then name
  else if dir.toList.getLast? == some '/' then dir ++ name
  else dir ++ "/" ++ name

end Pathname

end DispatchLayer
