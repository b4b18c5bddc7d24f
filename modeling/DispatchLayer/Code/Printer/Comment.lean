import DispatchLayer.Code
import DispatchLayer.Code.StringLiteral
import DispatchLayer.Pretty.Document

/-!
# Attributes as comments

Documentation attributes are written as comments, one line of text as a line comment and more as a
nested one, unless the text would end the comment or change its kind. The attribute `comment` is
written as a plain comment in the same way.
-/

namespace DispatchLayer.Code.Printer

open Pretty

/-- The characters without the spaces at the end. -/
def dropTrailingSpaces (cs : List Char) : List Char := (cs.reverse.dropWhile (· == ' ')).reverse

/-- The lines of a text, without the spaces at the end of all but the last. -/
def dropInteriorSpaces (s : String) : String :=
  let lines := s.splitOn "\n"
  let trimmed := lines.dropLast.map fun l => String.ofList (dropTrailingSpaces l.toList)
  "\n".intercalate (trimmed ++ lines.getLast?.toList)

/-- How many nested comments are open after the characters, starting with `depth`; none where one is
closed too often. -/
def commentDepth : Nat → List Char → Option Nat
  | depth, [] => some depth
  | depth, '/' :: '*' :: cs => commentDepth (depth + 1) cs
  | 0, '*' :: '/' :: _ => none
  | depth + 1, '*' :: '/' :: cs => commentDepth depth cs
  | depth, _ :: cs => commentDepth depth cs

/-- Whether a text can stand inside a nested comment. -/
def canBeNested (cs : List Char) : Bool :=
  commentDepth 0 cs == some 0 && cs.getLast? != some '/'

/-- The text that an attribute of a name is given as a string. -/
def attributeText? (name : String) (path : PlainPath) (e : Expr) : Option String :=
  match path.asName?, e with
  | some n, .literal text => if n = name then stringLiteralText? text else none
  | _, _ => none

/-- A comment on one line. -/
def lineComment (opener : String) (text : String) : Doc :=
  word opener ++ word (String.ofList (dropTrailingSpaces text.toList)) ++ hardBreak

/-- A nested comment. -/
def nestedComment (opener : String) (text : String) : Doc :=
  word opener ++ word (dropInteriorSpaces text) ++ word "*/" ++ hardBreak

/-- The comment that a documentation attribute becomes. -/
def docComment? (inner : Bool) (text : String) : Option Doc :=
  let cs := text.toList
  let startsWith := fun (c : Char) => cs.head? == some c
  if !cs.contains '\n' && (inner || !startsWith '/') then
    some (lineComment (if inner then "//!" else "///") text)
  else if canBeNested cs && (inner || !(startsWith '*' || startsWith '/')) then
    some (nestedComment (if inner then "/*!" else "/**") text)
  else none

/-- The comment that a `comment` attribute becomes. -/
def plainComment? (text : String) : Option Doc :=
  let cs := text.toList
  if !cs.contains '\n' then some (lineComment "//" text)
  else if canBeNested cs && !(cs.head? == some '*' || cs.head? == some '!') then
    some (nestedComment "/*" text)
  else none

/-- The comment that an attribute becomes, if it becomes one. -/
def comment? (inner : Bool) (path : PlainPath) (e : Expr) : Option Doc :=
  match attributeText? "doc" path e with
  | some text => docComment? inner text
  | none => (attributeText? "comment" path e).bind plainComment?

end DispatchLayer.Code.Printer
