import DispatchLayer.Artifact.Render
import DispatchLayer.Emission
import DispatchLayer.Host
import DispatchLayer.ModuleId

/-!
# Runs

A run settles the catalog and the module, lowers the catalog, emits both artifacts, renders both,
and only then writes both. The first stage that fails ends the run, so whatever fails before the
first file is written leaves all files alone.
-/

namespace DispatchLayer

/-- What a run is asked to do. -/
structure RunOptions where
  /-- The directory for the two files. -/
  dir : String
  /-- The kinds; none stand for the built-in ones. -/
  kinds : List String
  /-- The path of the module with the node types. -/
  astPath : String
  /-- Whether the files are formatted. -/
  format : Bool
  deriving DecidableEq, Repr

/-- Why an artifact is not in place. -/
inductive WriteError where
  | format (error : FormatError)
  | file (error : FileError)
  deriving DecidableEq, Repr

/-- The report about an artifact. -/
def WriteError.message : WriteError → String
  | .format e => e.message
  | .file e => e.message

/-- Why a run failed. -/
inductive RunError where
  | moduleId (error : ModuleIdError)
  | generate (error : GenerateError)
  | artifact (kind : ArtifactKind) (error : WriteError)
  deriving DecidableEq, Repr

/-- The report about a run. -/
def RunError.message : RunError → String
  | .moduleId e => e.message
  | .generate e => e.message
  | .artifact kind e => kind.label ++ " artifact: " ++ e.message

namespace Artifact

/-- The text of an artifact together with what it is the text of. -/
def rendered (format : Bool) (a : Artifact) : Except RunError (ArtifactKind × String) :=
  match a.render format with
  | .ok text => .ok (a.kind, text)
  | .error e => .error (.artifact a.kind (.format e))

/-- Whether a text is one that the generator made. -/
def isGenerated (text : String) : Bool := marker.toList.isPrefixOf text.toList

end Artifact

namespace Run

variable {m : Type → Type} [Monad m] [Host m]

/-- Write the text of an artifact into a directory, and tell where. A file of another origin is
replaced as well, but not without a warning. -/
def persist (dir : String) (kind : ArtifactKind) (text : String) : ExceptT FileError m String := do
  let path := Pathname.join dir kind.fileName
  match ← ExceptT.lift (Host.readText path) with
  | .ok old => unless Artifact.isGenerated old do Host.note (m := m) (.replacing path)
  | .error _ => pure ()
  ExceptT.mk (Host.writeText path text)
  Host.note (m := m) (.fileWritten path text.utf8ByteSize)
  return path

/-- Render an artifact and write it into a directory. -/
def write (dir : String) (format : Bool) (a : Artifact) : ExceptT WriteError m String := do
  match a.render format with
  | .error e => throw (.format e)
  | .ok text => (persist dir a.kind text).adapt .file

/-- Put a rendered artifact in place. -/
def place (dir moduleId : String) (artifact : ArtifactKind × String) :
    ExceptT RunError m String := do
  let path ← (persist dir artifact.1 artifact.2).adapt fun e => .artifact artifact.1 (.file e)
  Host.note (m := m) (.artifactWritten artifact.1 path moduleId)
  return path

/-- The artifacts of a catalog, stage by stage. -/
def emitted (catalog : Catalog) (moduleId astPath : String) : ExceptT RunError m Artifacts := do
  match catalog.lower moduleId astPath with
  | .error es => throw (.generate (.catalog es))
  | .ok plan =>
    Host.note (m := m) (.catalogLowered plan.kinds.length)
    match plan.emit with
    | .error e => throw (.generate e)
    | .ok artifacts =>
      Host.note (m := m) .artifactsEmitted
      return artifacts

end Run

/-- Run to the end, and give the paths of the files written. The module is found by `resolve`. -/
def RunOptions.run {m : Type → Type} [Monad m] [Host m] (o : RunOptions)
    (resolve : String → ExceptT ModuleIdError m String) : ExceptT RunError m (List String) := do
  let catalog := Catalog.resolve o.kinds
  Host.note (m := m) (.catalogResolved catalog.size catalog.source)
  let moduleId ← (resolve o.dir).adapt .moduleId
  let artifacts ← Run.emitted catalog moduleId o.astPath
  match artifacts.toList.mapM (Artifact.rendered o.format) with
  | .error e => throw e
  | .ok texts => texts.mapM (Run.place o.dir moduleId)

end DispatchLayer
