import DispatchLayer.Toml.Reader

/-!
# Blanks, comments, keys and strings

A blank is a space or a tab, and a line ends with a line feed, which a carriage return may precede.
Control characters stand nowhere, not even in comments. Strings are basic, in double quotes with
escapes, or literal, in single quotes; both have a form with three quotes that goes over several
lines, in which up to two quotes may stand anywhere, also right before the closing ones.
-/

namespace DispatchLayer.Toml

open Reader

/-- Space and tab. -/
def isBlank (c : Char) : Bool := c == ' ' || c == '\t'

/-- Blanks ahead. -/
def blanks : Reader Unit := do let _ ← span isBlank

/-- The end of a line. -/
def newline : Reader Unit := char '\n' <|> (do char '\r'; char '\n')

/-- The characters that may stand in a text: the tab and all that are no control characters. -/
def isTextChar (c : Char) : Bool := c == '\t' || (' ' ≤ c && c != '\x7f')

/-- A comment, up to the end of its line. -/
def comment : Reader Unit := do
  char '#'
  let _ ← span isTextChar

/-- The end of a line or of the text. -/
def lineEnd : Reader Unit := newline <|> atEnd

/-- What may follow on a line: blanks and a comment. -/
def lineRest : Reader Unit := do
  blanks
  let _ ← attempt comment
  lineEnd

/-- Blanks, comments and line ends between the parts of an array. -/
def gap : Reader Unit := do
  let _ ← many ((do let _ ← span1 isBlank) <|> newline <|> (do comment; newline))

/-! ## Strings -/

/-- Whether the character is a hexadecimal digit. -/
def isHexDigit (c : Char) : Bool :=
  c.isDigit || ('a' ≤ c && c ≤ 'f') || ('A' ≤ c && c ≤ 'F')

/-- The value of a hexadecimal digit. -/
def hexDigitValue (c : Char) : Nat :=
  if c.isDigit then c.toNat - '0'.toNat
  else if 'a' ≤ c then c.toNat - 'a'.toNat + 10
  else c.toNat - 'A'.toNat + 10

/-- The number that digits write in a base. -/
def digitsValue (base : Nat) (cs : List Char) : Nat :=
  cs.foldl (fun n c => n * base + hexDigitValue c) 0

/-- A character by its code point, in so many hexadecimal digits. -/
def codePoint (length : Nat) : Reader Char := do
  let n := digitsValue 16 (← exactly length isHexDigit)
  if n.isValidChar then return Char.ofNat n else failure

/-- An escape. -/
def escape : Reader Char := do
  char '\\'
  match ← satisfy fun _ => true with
  | 'b' => return '\x08'
  | 'f' => return '\x0c'
  | 'n' => return '\n'
  | 'r' => return '\r'
  | 't' => return '\t'
  | '"' => return '"'
  | '\\' => return '\\'
  | 'u' => codePoint 4
  | 'U' => codePoint 8
  | _ => failure

/-- Whether the character may stand in a basic string as it is. -/
def isBasicChar (c : Char) : Bool := isTextChar c && c != '"' && c != '\\'

/-- Whether the character may stand in a literal string. -/
def isLiteralChar (c : Char) : Bool := isTextChar c && c != '\''

/-- A basic string on one line. -/
def basicString : Reader String := do
  char '"'
  let cs ← many (satisfy isBasicChar <|> escape)
  char '"'
  return String.ofList cs

/-- A literal string on one line. -/
def literalString : Reader String := do
  char '\''
  let cs ← span isLiteralChar
  char '\''
  return String.ofList cs

/-- The quote that delimits a string of several lines. -/
def threeQuotes (quote : Char) : Reader Unit := word [quote, quote, quote]

/-- One or two quotes that something else follows. -/
def innerQuotes (quote : Char) : Reader (List Char) := fun cs =>
  let quotes := cs.takeWhile (· == quote)
  if quotes.length = 1 || quotes.length = 2 then
    let rest := cs.dropWhile (· == quote)
    if rest.isEmpty then none else some (quotes, rest)
  else none

/-- The last quotes of a string of several lines: up to two of the string's own, and the closing
three. -/
def closingQuotes (quote : Char) : Reader (List Char) := do
  let own := fun n => do
    word (List.replicate n quote)
    threeQuotes quote
    return List.replicate n quote
  own 2 <|> own 1 <|> own 0

/-- The inside of a string of several lines, given its parts other than quotes. A line end right
after the opening quotes does not count. -/
def severalLines (quote : Char) (part : Reader (List Char)) : Reader String := do
  threeQuotes quote
  let _ ← attempt newline
  let first ← many part
  let more ← many do
    let quotes ← innerQuotes quote
    return quotes ++ (← many1 part).flatten
  let own ← closingQuotes quote
  return String.ofList (first.flatten ++ more.flatten ++ own)

/-- A line end that a backslash hides, with the blanks around it and the blank lines after it. -/
def hiddenLineEnd : Reader (List Char) := do
  char '\\'
  blanks
  newline
  let _ ← many (newline <|> (do let _ ← span1 isBlank))
  return []

/-- A line end in a string. -/
def stringNewline : Reader (List Char) := do
  newline
  return ['\n']

/-- A basic string of several lines. -/
def basicLines : Reader String :=
  severalLines '"'
    (span1 isBasicChar <|> hiddenLineEnd <|> (do return [← escape]) <|> stringNewline)

/-- A literal string of several lines. -/
def literalLines : Reader String := severalLines '\'' (span1 isLiteralChar <|> stringNewline)

/-- A string. -/
def string : Reader String := basicLines <|> basicString <|> literalLines <|> literalString

/-! ## Keys -/

/-- Whether the character may stand in a key without quotes. -/
def isBareKeyChar (c : Char) : Bool := c.isAlphanum || c == '-' || c == '_'

/-- One part of a key. -/
def simpleKey : Reader String := do
  match ← peek with
  | '"' => basicString
  | '\'' => literalString
  | _ => return String.ofList (← span1 isBareKeyChar)

/-- Nesting and dotted keys go less deep than this. -/
def maxDepth : Nat := 80

/-- A key: the parts before the last, and the last. -/
def key : Reader (List String × String) := do
  let parts ← separated1 (do blanks; let k ← simpleKey; blanks; return k) '.'
  match parts.getLast? with
  | some last => if parts.length < maxDepth then return (parts.dropLast, last) else failure
  | none => failure

end DispatchLayer.Toml
