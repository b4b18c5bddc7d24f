import DispatchLayer.Artifact
import DispatchLayer.Code.Reader
import DispatchLayer.Code.Spelling
import DispatchLayer.Emission.Visitor

/-!
# Emission

A dispatch plan becomes two artifacts. The path of the node types is read first: it has to be a path
without generic arguments. The names of a plan need not have been checked; a string that spells no
name ends the emission of the artifact it occurs in.
-/

namespace DispatchLayer

/-- Why a path cannot lead to the node types. -/
inductive AstPathError where
  | invalid (path : String) (reason : Code.ReadError)
  | generic (path : String)
  deriving DecidableEq, Repr

/-- The report about a path. -/
def AstPathError.message : AstPathError → String
  | .invalid path reason => "invalid AST path `" ++ path ++ "`: " ++ reason.message
  | .generic path => "unsupported: AST path `" ++ path ++ "` must not carry generic arguments"

namespace Emission

/-- Read the path of the node types. -/
def readAstPath (path : String) : Except AstPathError Code.Path :=
  match Code.Path.ofText? path with
  | .error reason => .error (.invalid path reason)
  | .ok p =>
    if p.asPlain?.isSome then .ok p else .error (.generic path)

/-- The artifact of a source file. -/
def toArtifact (kind : ArtifactKind) (moduleId : String) (f : Code.SourceFile) : Artifact :=
  ⟨kind, Artifact.headerFor moduleId, f.spell⟩

/-- The handlers artifact of a plan, given the path of the node types. -/
def handlers (ast : Code.Path) (plan : DispatchPlan) : Except NameError Artifact :=
  (handlersFile ast plan.kinds).map (toArtifact .handlers plan.moduleId)

/-- The visitor artifact of a plan, given the path of the node types. -/
def visitor (ast : Code.Path) (plan : DispatchPlan) : Except NameError Artifact :=
  (visitorFile ast plan.kinds).map (toArtifact .visitor plan.moduleId)

end Emission

/-- Both artifacts of a run. -/
structure Artifacts where
  handlers : Artifact
  visitor : Artifact

/-- Both artifacts in the order in which they are rendered and written. -/
def Artifacts.toList (a : Artifacts) : List Artifact := [a.handlers, a.visitor]

/-- Why there are no artifacts. -/
inductive GenerateError where
  | catalog (errors : CatalogErrors)
  | astPath (error : AstPathError)
  /-- A string spells no name: the emission breaks off. -/
  | name (error : NameError)
  deriving DecidableEq, Repr

/-- The report about a failed generation. -/
def GenerateError.message : GenerateError → String
  | .catalog es => es.message
  | .astPath e => "emission error: " ++ e.message
  | .name e => e.message

/-- The artifacts of a plan. -/
def DispatchPlan.emit (plan : DispatchPlan) : Except GenerateError Artifacts := do
  let ast ← (Emission.readAstPath plan.astPath).mapError .astPath
  let handlers ← (Emission.handlers ast plan).mapError .name
  let visitor ← (Emission.visitor ast plan).mapError .name
  return ⟨handlers, visitor⟩

/-- The artifacts of a catalog. -/
def Catalog.generate (c : Catalog) (moduleId astPath : String) :
    Except GenerateError Artifacts := do
  let plan ← (c.lower moduleId astPath).mapError .catalog
  plan.emit

end DispatchLayer
