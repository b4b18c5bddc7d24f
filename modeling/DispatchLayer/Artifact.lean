import DispatchLayer.Token.Layout
import DispatchLayer.Naming

/-!
# Artifacts

The two files that a run makes: one with the node type and the handler traits, and one with the
visitor. An artifact is a header line, which names the module it was made for, and the tokens of a
source file.
-/

namespace DispatchLayer

/-- Version of the generator. -/
def generatorVersion : String := "0.1.0"

/-- The two artifacts. -/
inductive ArtifactKind where
  | handlers
  | visitor
  deriving DecidableEq, Repr

namespace ArtifactKind

/-- The word for an artifact in reports. -/
def label : ArtifactKind → String
  | .handlers => "handlers"
  | .visitor => "visitor"

/-- The base name of the artifact's file. -/
def fileName : ArtifactKind → String
  | .handlers => Naming.handlersFile
  | .visitor => Naming.visitorFile

end ArtifactKind

/-- A generated file before it is rendered. -/
structure Artifact where
  kind : ArtifactKind
  header : String
  tokens : List Token

namespace Artifact

/-- How every generated file begins. -/
def marker : String := "// Code generated by astv"

/-- The header for a module. -/
def headerFor (moduleId : String) : String :=
  marker ++ " v" ++ generatorVersion ++ " for module `" ++ moduleId ++ "`. DO NOT EDIT."

/-- The source text of an artifact, on one line. -/
def source (a : Artifact) : String := Token.line a.tokens

end Artifact

end DispatchLayer
