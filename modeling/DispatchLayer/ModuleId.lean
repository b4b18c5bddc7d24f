import DispatchLayer.Host
import DispatchLayer.Manifest

/-!
# Module identifiers

A directory belongs to the package whose manifest is nearest above it. The identifier of its module
is the name of the package, with underscores for hyphens, followed by the directories from the
manifest down to it; a `src` right below the manifest is left out. The nearest manifest decides,
even if it cannot be used.
-/

namespace DispatchLayer

/-- Why there is no module identifier for a directory. -/
inductive ModuleIdError where
  /-- The directory, or a manifest, cannot be read. -/
  | unreadable (path : String) (error : FileError)
  | notDirectory (path : String)
  | noManifest (dir : String)
  | manifest (path : String) (error : ManifestError)
  | noPackage (path : String)
  deriving DecidableEq, Repr

/-- The report about a directory. -/
def ModuleIdError.message : ModuleIdError → String
  | .unreadable path e => "cannot read directory " ++ path ++ ": " ++ e.message
  | .notDirectory path => "cannot read directory " ++ path ++ ": not a directory"
  | .noManifest dir => "no Cargo.toml found in " ++ dir ++ " or any parent directory"
  | .manifest path e => "failed to parse " ++ path ++ ": " ++ e.message
  | .noPackage path => path ++ " has no [package] table (virtual workspace manifest?)"

namespace ModuleId

/-- The name of a manifest. -/
def manifestName : String := "Cargo.toml"

/-- The name of a package as a part of an identifier. -/
def ofPackage (name : String) : String :=
  String.ofList (name.toList.map fun c => if c = '-' then '_' else c)

/-- The directories that count, of those from a manifest down. -/
def segments : List String → List String
  | "src" :: rest => rest
  | names => names

/-- The identifier of a directory, by the name of its package and the names from the manifest down.
-/
def ofParts (package : String) (below : List String) : String :=
  "::".intercalate (ofPackage package :: segments below)

/-- A directory given by its names in reverse order, and those above it, the nearest first. -/
def upwards : List String → List Location
  | [] => [[]]
  | name :: above => (name :: above).reverse :: upwards above

/-- A directory and those above it, the nearest first. -/
def selfAndAbove (dir : Location) : List Location := upwards dir.reverse

variable {m : Type → Type} [Monad m] [Host m]

/-- The first of these directories that has a manifest. -/
def firstWithManifest : List Location → m (Option Location)
  | [] => return none
  | dir :: dirs => do
    if ← Host.isFileIn dir manifestName then return some dir else firstWithManifest dirs

/-- The name of the package in a directory with a manifest. -/
def packageIn (dir : Location) (manifest : String) : ExceptT ModuleIdError m String := do
  match ← Host.readTextIn (m := m) dir manifestName with
  | .error e => throw (.unreadable manifest e)
  | .ok text =>
    match Manifest.packageName? text with
    | .error e => throw (.manifest manifest e)
    | .ok none => throw (.noPackage manifest)
    | .ok (some name) => return name

/-- The directory that a pathname leads to. -/
def directoryAt (path : String) : ExceptT ModuleIdError m Location := do
  match ← Host.canonicalize (m := m) path with
  | .error e => throw (.unreadable path e)
  | .ok dir => if ← Host.isDirectory (m := m) dir then return dir else throw (.notDirectory path)

/-- The identifier of the module in a directory. -/
def resolve (path : String) : ExceptT ModuleIdError m String := do
  let dir ← directoryAt path
  match ← firstWithManifest (m := m) (selfAndAbove dir) with
  | none => throw (.noManifest (← Host.pathText (m := m) dir))
  | some top =>
    let manifest ← Host.pathText (m := m) (top ++ [manifestName])
    let package ← packageIn top manifest
    let id := ofParts package (dir.drop top.length)
    Host.note (m := m) (.moduleResolved id manifest)
    return id

end ModuleId

end DispatchLayer
