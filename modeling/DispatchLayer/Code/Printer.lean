import DispatchLayer.Code.Printer.Tree
import DispatchLayer.Pretty.Layout

/-!
# Source files on lines

A source file as text, unless it holds a form that cannot be set; then the answer is the complaint
about the first of those.
-/

namespace DispatchLayer.Code

/-- A source file on lines. -/
def SourceFile.print (f : SourceFile) : Except String String :=
  let d := Printer.fileDoc f
  match Pretty.refusal? d with
  | some complaint => .error complaint
  | none => .ok (Pretty.render d)

end DispatchLayer.Code
