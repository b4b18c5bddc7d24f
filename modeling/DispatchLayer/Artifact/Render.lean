import DispatchLayer.Artifact
import DispatchLayer.Code.Printer
import DispatchLayer.Code.Reader

/-!
# The text of an artifact

The text of an artifact is its header, an empty line and its source, either on one line or, if
formatting is asked for, read as a source file and set on lines. Only formatting can fail: source
that cannot be read is reported together with the text on one line, and source that can be read but
not set breaks the formatting off.
-/

namespace DispatchLayer

/-- The source of an artifact cannot be formatted. -/
inductive FormatError where
  /-- It cannot be read; with it comes the source on one line. -/
  | unreadable (reason : Code.ReadError) (source : String)
  /-- It holds a form that cannot be set. -/
  | refused (complaint : String)
  deriving DecidableEq, Repr

/-- The report about source that cannot be formatted. -/
def FormatError.message : FormatError → String
  | .unreadable reason _ => "failed to format generated source: " ++ reason.message
  | .refused complaint => complaint

namespace Artifact

/-- A source text set on lines. -/
def formatSource (source : String) : Except FormatError String :=
  match Code.SourceFile.ofText? source with
  | .ok f => f.print.mapError .refused
  | .error reason => .error (.unreadable reason source)

/-- What follows the header and the empty line. -/
def body (format : Bool) (a : Artifact) : Except FormatError String :=
  if format then formatSource a.source else .ok (a.source ++ "\n")

/-- The text of an artifact. -/
def render (format : Bool) (a : Artifact) : Except FormatError String :=
  (a.body format).map fun text => a.header ++ "\n\n" ++ text

end Artifact

end DispatchLayer
