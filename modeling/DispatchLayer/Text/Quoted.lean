import DispatchLayer.Unicode.Display

/-!
# Quotations

Two ways to write a text between double quotes. Both use a backslash for the quote, the backslash
and the usual control characters, and spell by code point what would not show on its own. A
quotation for a message (`quoted`) writes the null character as `\0`; a string literal of source
code (`stringLiteral`) does so only where no octal digit follows, and leaves the single quote alone.
-/

namespace DispatchLayer.Text

open Unicode

/-- A code point spelled in hexadecimal, as in `\u{301}`. -/
def codePointEscape (c : Char) : List Char :=
  ['\\', 'u', '\x7b'] ++ Nat.toDigits 16 c.toNat ++ ['\x7d']

/-- A character as it stands in a quotation. -/
def escapedChar (c : Char) : List Char :=
  if c = '\x00' then ['\\', '0']
  else if c = '\t' then ['\\', 't']
  else if c = '\r' then ['\\', 'r']
  else if c = '\n' then ['\\', 'n']
  else if c = '"' then ['\\', '"']
  else if c = '\\' then ['\\', '\\']
  else if isGraphemeExtend c then codePointEscape c
  else if isPrintable c then [c]
  else codePointEscape c

/-- The text as a quotation. -/
def quoted (s : String) : String :=
  String.ofList (['"'] ++ s.toList.flatMap escapedChar ++ ['"'])

/-- The digits that would be read into an octal escape. -/
def isOctalDigit (c : Char) : Bool := '0' ≤ c && c ≤ '7'

/-- The inside of a string literal. -/
def literalChars : List Char → List Char
  | [] => []
  | c :: rest =>
    (if c = '\x00' then
      if (rest.head?.map isOctalDigit).getD false then ['\\', 'x', '0', '0'] else ['\\', '0']
    else escapedChar c) ++ literalChars rest

/-- The text as a string literal of source code. -/
def stringLiteral (s : String) : String :=
  String.ofList (['"'] ++ literalChars s.toList ++ ['"'])

end DispatchLayer.Text
