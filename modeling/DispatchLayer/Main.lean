import DispatchLayer.Program

/-!
# The command as an executable

The file system as a host, and the entry point: arguments in, output and exit code out.
-/

namespace DispatchLayer

/-- The failure behind an error of the system. -/
def FileError.ofSystem (e : IO.Error) : FileError :=
  match e with
  | .noFileOrDirectory _ code text => .ofCode code.toNat text
  | .inappropriateType _ code text => .ofCode code.toNat text
  | .invalidArgument _ code text => .ofCode code.toNat text
  | .permissionDenied _ code text => .ofCode code.toNat text
  | .resourceExhausted _ code text => .ofCode code.toNat text
  | .noSuchThing _ code text => .ofCode code.toNat text
  | .otherError code text => .ofCode code.toNat text
  | e => .other (toString e)

namespace FileSystem

/-- What an action gives, with its errors as failures of file operations. -/
def attempt {α : Type} (action : IO α) : IO (Except FileError α) := do
  try return .ok (← action) catch e => return .error (.ofSystem e)

/-- The pathname of a location below the root. -/
def absolute (loc : Location) : String := "/" ++ "/".intercalate loc

/-- Whether a pathname leads to a directory. -/
def leadsToDirectory (path : String) : IO Bool := do
  return (← attempt (IO.FS.realPath (path ++ "/."))).isOk

/-- The text of a file. -/
def readText (path : String) : IO (Except FileError String) := do
  return (← attempt (IO.FS.readBinFile path)).bind FileTree.decode

end FileSystem

open FileSystem

/-- The file system as a host. Events go to the error output. -/
instance : Host IO where
  canonicalize path := do
    return (← attempt (IO.FS.realPath path)).map fun p => (Pathname.ofText (toString p)).names
  pathText loc := return absolute loc
  isDirectory loc := leadsToDirectory (absolute loc)
  isFileIn dir name := do
    let path := absolute (dir ++ [name])
    return (← attempt (IO.FS.realPath path)).isOk && !(← leadsToDirectory path)
  readTextIn dir name := readText (absolute (dir ++ [name]))
  readText path := readText path
  writeText path text := attempt (IO.FS.writeFile path text)
  note e := do
    if e.level.isShown ((← IO.getEnv "RUST_LOG").getD "info") then IO.eprintln e.text

end DispatchLayer

/-- Run the command. -/
def main (arguments : List String) : IO UInt32 := do
  let output : DispatchLayer.Output ← DispatchLayer.Program.run arguments
  IO.print output.standard
  IO.eprint output.error
  return output.exitCode.code.toUInt32
