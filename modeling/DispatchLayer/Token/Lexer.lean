import DispatchLayer.Token
import DispatchLayer.Token.Scan
import DispatchLayer.Text.Quoted
import DispatchLayer.Unicode.Blank

/-!
# Reading tokens

A text is read piece by piece from the front: white space and plain comments give no token,
documentation comments give the tokens of a `doc` attribute, and everything else gives one token.
Reading fails on characters outside the language, on malformed literals and on brackets that do not
pair up; it has no finer errors.

A punctuation character is joint when another one follows it directly, the beginning of a comment
not being one.
-/

namespace DispatchLayer.Token

open Scan Unicode

/-! ## White space and comments -/

/-- White space between tokens: Unicode's, and the two direction marks. -/
def isBlank (c : Char) : Bool := isWhiteSpace c || c == '\u200e' || c == '\u200f'

/-- Drop the rest of the line. -/
def dropLine (cs : List Char) : List Char := cs.dropWhile (· != '\n')

/-- The text of a nested comment up to its end, which is not part of it; `depth` comments are open
around the innermost one. -/
def scanComment : Nat → List Char → Split
  | _, [] => none
  | depth, '/' :: '*' :: cs => pushAll ['/', '*'] (scanComment (depth + 1) cs)
  | 0, '*' :: '/' :: cs => some ([], cs)
  | depth + 1, '*' :: '/' :: cs => pushAll ['*', '/'] (scanComment depth cs)
  | depth, c :: cs => push c (scanComment depth cs)

/-- Whether what follows `//` makes it documentation: `!`, or one further slash. -/
def isLineDoc : List Char → Bool
  | '!' :: _ => true
  | '/' :: '/' :: _ => false
  | '/' :: _ => true
  | _ => false

/-- Whether what follows the two characters that open a nested comment makes it documentation: `!`,
or one further star that does not close the comment. -/
def isBlockDoc : List Char → Bool
  | '!' :: _ => true
  | '*' :: '/' :: _ => false
  | '*' :: '*' :: _ => false
  | '*' :: _ => true
  | _ => false

/-- The rest of the line, without the carriage return that belongs to its end. -/
def lineText : List Char → List Char
  | [] => []
  | '\r' :: '\n' :: _ => []
  | c :: cs => if c = '\n' then [] else c :: lineText cs

/-- A carriage return without a line feed. -/
def hasBareReturn : List Char → Bool
  | [] => false
  | c :: cs => (c == '\r' && cs.head? != some '\n') || hasBareReturn cs

/-- The attribute that a documentation comment stands for. -/
def docAttribute (inner : Bool) (text : String) : List Token :=
  mark '#' :: (if inner then [mark '!'] else []) ++
    grouped .bracket [.ident "doc", mark '=', .literal (Text.stringLiteral text)]

/-- A documentation comment, given its mark (`!` makes it an inner one) and text. -/
def docTokens? (m : Char) (text : List Char) : Option (List Token) :=
  if hasBareReturn text then none
  else some (docAttribute (m = '!') (String.ofList text))

/-! ## Punctuation -/

/-- The punctuation characters. -/
def isPunctChar (c : Char) : Bool := "~!@#$%^&*-=+|;:,<.>/?'".toList.contains c

/-- Whether a punctuation character comes next, and not a comment. -/
def startsPunct : List Char → Bool
  | '/' :: '/' :: _ => false
  | '/' :: '*' :: _ => false
  | c :: _ => isPunctChar c
  | [] => false

/-- A punctuation character. The single quote has to begin a lifetime, and the lifetime's name must
not run into a quote or a hash sign. -/
def scanPunct : List Char → Option (Token × List Char)
  | [] => none
  | c :: cs =>
    if !startsPunct (c :: cs) then none
    else if c = '\'' then
      match scanAnyName cs with
      | none => none
      | some (name, after) =>
        let raw := ['r', '#'].isPrefixOf name
        if after.head? = some '\'' ∨ (after.head? = some '#' ∧ raw = false) then none
        else some (.punct '\'' .joint, cs)
    else some (.punct c (if startsPunct cs then .joint else .alone), cs)

/-! ## Pieces -/

/-- The bracket that a character is, and whether it opens. -/
def bracketOf? : Char → Option Token
  | '(' => some (.opening .paren)
  | '[' => some (.opening .bracket)
  | '\x7b' => some (.opening .brace)
  | ')' => some (.closing .paren)
  | ']' => some (.closing .bracket)
  | '\x7d' => some (.closing .brace)
  | _ => none

/-- A literal, a punctuation character or a name. -/
def scanLeaf (cs : List Char) : Option (Token × List Char) :=
  match scanLiteral cs with
  | some (text, rest) => some (.literal (String.ofList text), rest)
  | none =>
    match scanPunct cs with
    | some p => some p
    | none =>
      match scanIdent cs with
      | some (name, rest) => some (.ident (String.ofList name), rest)
      | none => none

/-- The marker that stands for a literal that could not be made; it counts as a literal. -/
def brokenMarker : List Char := "(/*ERROR*/)".toList

/-- The first piece of the text: its tokens and the rest. -/
def scanPiece : List Char → Option (List Token × List Char)
  | [] => none
  | '/' :: '/' :: cs =>
    if isLineDoc cs then
      match cs with
      | m :: text =>
        (docTokens? m (lineText text)).map fun ts => (ts, text.drop (lineText text).length)
      | [] => none
    else some ([], dropLine cs)
  | '/' :: '*' :: cs =>
    match scanComment 0 cs with
    | none => none
    | some (text, rest) =>
      if isBlockDoc cs then
        match text with
        | m :: text' => (docTokens? m text').map fun ts => (ts, rest)
        | [] => none
      else some ([], rest)
  | c :: cs =>
    if isBlank c then some ([], cs)
    else if brokenMarker.isPrefixOf (c :: cs) then
      some ([.literal (String.ofList brokenMarker)], (c :: cs).drop brokenMarker.length)
    else
      match bracketOf? c with
      | some t => some ([t], cs)
      | none => (scanLeaf (c :: cs)).map fun p => ([p.1], p.2)

/-- Read pieces until the text ends; `done` holds the tokens so far, last one first. Every piece
takes a character, so the length of the text is enough fuel. -/
def scanPieces : Nat → List Token → List Char → Option (List Token)
  | _, done, [] => some done.reverse
  | 0, _, _ => none
  | fuel + 1, done, c :: cs =>
    match scanPiece (c :: cs) with
    | none => none
    | some (ts, rest) => scanPieces fuel (ts.reverse ++ done) rest

/-- A byte order mark at the very beginning is no part of the text. -/
def dropByteOrderMark : List Char → List Char
  | '\ufeff' :: cs => cs
  | cs => cs

/-- The tokens of a text, if it can be read. -/
def ofChars? (cs : List Char) : Option (List Token) :=
  let cs := dropByteOrderMark cs
  match scanPieces cs.length [] cs with
  | some ts => if balanced ts then some ts else none
  | none => none

/-- The tokens of a text, if it can be read. -/
def ofText? (s : String) : Option (List Token) := ofChars? s.toList

end DispatchLayer.Token
