import DispatchLayer.Token.Scan

/-!
# The text of a string literal

What a string literal of source code stands for: the raw form stands for the characters between its
quotes, the other one for what its escapes mean. A suffix does not count.
-/

namespace DispatchLayer.Code

open Scan

/-- The situation inside the quotes. -/
inductive DecodeState where
  | body
  /-- A carriage return was read; with the line feed after it, it is one line end. -/
  | afterReturn
  | escape
  /-- Skipping the blanks after a backslash at the end of a line. -/
  | continued
  | hexFirst
  | hexSecond (value : Nat)
  | codePointOpen
  | codePoint (value : Nat)

/-- The character that a one-character escape stands for. -/
def escapedBy? : Char → Option Char
  | 'n' => some '\n'
  | 'r' => some '\r'
  | 't' => some '\t'
  | '0' => some '\x00'
  | '\\' => some '\\'
  | '\'' => some '\''
  | '"' => some '"'
  | _ => none

/-- A character in the body: what it stands for and what follows, or the end. -/
def decodeBody (c : Char) : Option (List Char × DecodeState) :=
  if c = '"' then none
  else if c = '\\' then some ([], .escape)
  else if c = '\r' then some ([], .afterReturn)
  else some ([c], .body)

/-- The meaning of a character in its situation, or the end of the literal. -/
def decodeStep : DecodeState → Char → Option (List Char × DecodeState)
  | .body, c => decodeBody c
  | .afterReturn, _ => some (['\n'], .body)
  | .escape, c =>
    match escapedBy? c with
    | some d => some ([d], .body)
    | none =>
      if c = 'x' then some ([], .hexFirst)
      else if c = 'u' then some ([], .codePointOpen)
      else some ([], .continued)
  | .continued, c =>
    if c = ' ' ∨ c = '\t' ∨ c = '\n' ∨ c = '\r' then some ([], .continued) else decodeBody c
  | .hexFirst, c => some ([], .hexSecond ((hexValue? c).getD 0))
  | .hexSecond v, c => some ([Char.ofNat (v * 16 + (hexValue? c).getD 0)], .body)
  | .codePointOpen, _ => some ([], .codePoint 0)
  | .codePoint v, c =>
    match hexValue? c with
    | some d => some ([], .codePoint (v * 16 + d))
    | none => if c = '_' then some ([], .codePoint v) else some ([Char.ofNat v], .body)

/-- The characters that the inside of a literal stands for. -/
def decodeChars : DecodeState → List Char → List Char
  | _, [] => []
  | s, c :: cs =>
    match decodeStep s c with
    | none => []
    | some (out, s') => out ++ decodeChars s' cs

/-- The characters of a raw string, from its hash signs on. -/
def decodeRaw (cs : List Char) : List Char :=
  let hashes := cs.takeWhile (· == '#')
  match scanRawBody .text hashes (cs.drop (hashes.length + 1)) with
  | some (inside, _) => inside.take (inside.length - hashes.length - 1)
  | none => []

/-- The text of a string literal, if the literal is one. -/
def stringLiteralText? (literal : String) : Option String :=
  match literal.toList with
  | '"' :: cs => some (String.ofList (decodeChars .body cs))
  | 'r' :: cs => some (String.ofList (decodeRaw cs))
  | _ => none

end DispatchLayer.Code
