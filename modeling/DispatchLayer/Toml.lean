import DispatchLayer.Toml.Number

/-!
# TOML documents

A document is read line by line: keys with values, and headers, each with an optional comment. A key
that stands for something already, and a header for a table that has one, are refused, so a document
has one reading or none (`Toml.ofText?`).
-/

namespace DispatchLayer.Toml

open Reader

/-- A boolean. -/
def boolean : Reader Scalar :=
  (do word ['t', 'r', 'u', 'e']; return .boolean true) <|>
    (do word ['f', 'a', 'l', 's', 'e']; return .boolean false)

/-- A value without parts. Dates are tried before numbers, which they begin like. -/
def scalar : Reader Node := do
  let text : Reader Scalar := do return .string (← string)
  return .scalar (← text <|> boolean <|> moment <|> float <|> integer)

/-- An array of values. -/
def array (value : Reader Node) : Reader Node := do
  char '['
  let items ← attempt do
    let items ← separated1 (do gap; let v ← value; gap; return v) ','
    let _ ← attempt (char ',')
    return items
  gap
  char ']'
  return .array (items.getD [])

/-- A table in braces, on one line. -/
def braces (value : Reader Node) : Reader Node := do
  char '\x7b'
  let pair : Reader (List String × String × Node) := do
    let (path, last) ← key
    char '='
    blanks
    let v ← value
    blanks
    return (path, last, v)
  let pairs ← separated pair ','
  blanks
  char '\x7d'
  match inlineTable pairs with
  | some node => return node
  | none => failure

/-- A value nested less deeply than this. -/
def value : Nat → Reader Node
  | 0 => scalar
  | depth + 1 => scalar <|> array (value depth) <|> braces (value depth)

/-- A line of a document. -/
inductive Line where
  | blank
  | header (path : List String)
  | element (path : List String)
  | pair (path : List String) (key : String) (node : Node)

/-- A line with a key and a value. -/
def pairLine : Reader Line := do
  let (path, last) ← key
  char '='
  blanks
  let v ← value (maxDepth - 1)
  lineRest
  return .pair path last v

/-- A line with a header. -/
def headerLine : Reader Line := do
  char '['
  let (path, last) ← key
  char ']'
  lineRest
  return .header (path ++ [last])

/-- A line with a header in double brackets. -/
def elementLine : Reader Line := do
  word ['[', '[']
  let (path, last) ← key
  word [']', ']']
  lineRest
  return .element (path ++ [last])

/-- A line of a document. -/
def line : Reader Line := do
  let content : Reader Line := do
    match ← peek with
    | '#' => do comment; lineEnd; return .blank
    | '[' => elementLine <|> headerLine
    | '\n' | '\r' => do newline; return .blank
    | _ => pairLine
  let l ← content
  blanks
  return l

/-- The lines of a document. -/
def lines : Reader (List Line) := do
  blanks
  let ls ← many line
  atEnd
  return ls

/-- Add a line to a draft. -/
def Draft.add (d : Draft) : Line → Option Draft
  | .blank => some d
  | .header path => d.header path
  | .element path => d.element path
  | .pair path key node => d.pair path key node

/-- Leave out the mark that tells the order of bytes. -/
def dropMark : List Char → List Char
  | '\uFEFF' :: cs => cs
  | cs => cs

/-- The entries of a document, or `none` if the text is not one. -/
def ofText? (text : String) : Option Entries := do
  let (ls, _) ← lines (dropMark text.toList)
  let d ← ls.foldlM Draft.add Draft.start
  return (← d.finish).entries

end DispatchLayer.Toml
