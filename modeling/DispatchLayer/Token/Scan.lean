import DispatchLayer.Unicode.Identifier

/-!
# Names and literals at the front of a text

Recognisers for the longer tokens. Each one takes the text from some point on and answers with the
characters it recognises and the rest, or with `none`. Nothing is lost on the way: the characters
recognised and the rest are the text.

Quoted forms are read by a machine with one state per situation inside the quotes (`QuoteState`);
the three forms of strings differ in what they may hold (`StringKind`).
-/

namespace DispatchLayer.Scan

open Unicode

/-- What is recognised, and the rest. -/
abbrev Split := Option (List Char × List Char)

/-- One more character in front of what is recognised. -/
def push (c : Char) (s : Split) : Split := s.map fun p => (c :: p.1, p.2)

/-- Several more characters in front of what is recognised. -/
def pushAll (cs : List Char) (s : Split) : Split := s.map fun p => (cs ++ p.1, p.2)

/-- The longest front part whose characters all pass, and the rest. -/
def span (p : Char → Bool) (cs : List Char) : List Char × List Char :=
  (cs.takeWhile p, cs.dropWhile p)

/-! ## Names -/

/-- May begin a name. -/
def isNameStart (c : Char) : Bool := c == '_' || isXidStart c

/-- May continue a name. -/
def isNameContinue (c : Char) : Bool := isXidContinue c

/-- A name without raw mark. -/
def scanName : List Char → Split
  | [] => none
  | c :: cs =>
    if isNameStart c then some (c :: cs.takeWhile isNameContinue, cs.dropWhile isNameContinue)
    else none

/-- Names that have no raw form. -/
def notRaw : List String := ["_", "super", "self", "Self", "crate"]

/-- A name, which the mark `r#` makes raw. -/
def scanAnyName : List Char → Split
  | 'r' :: '#' :: cs =>
    match scanName cs with
    | some (name, rest) =>
      if notRaw.contains (String.ofList name) then none else some ('r' :: '#' :: name, rest)
    | none => none
  | cs => scanName cs

/-- Beginnings that a literal shares with a name; where the literal fails, no name is read. -/
def literalOpeners : List (List Char) :=
  ["r\"", "r#\"", "r##", "b\"", "b'", "br\"", "br#", "c\"", "cr\"", "cr#"].map String.toList

/-- A name that cannot be taken for the beginning of a literal. -/
def scanIdent (cs : List Char) : Split :=
  if literalOpeners.any (·.isPrefixOf cs) then none else scanAnyName cs

/-! ## Quoted literals -/

/-- The three forms of quoted literals. -/
inductive StringKind where
  | text
  | bytes
  | terminated
  deriving DecidableEq, Repr

/-- Whether a character may stand for itself. -/
def StringKind.allows : StringKind → Char → Bool
  | .text, _ => true
  | .bytes, c => c.toNat < 128
  | .terminated, c => c != '\x00'

/-- The situation inside the quotes. -/
inductive QuoteState where
  | body
  /-- A carriage return was read; a line feed has to follow. -/
  | afterReturn
  /-- A backslash was read. -/
  | escape
  /-- Skipping the blanks after a backslash at the end of a line. -/
  | continued
  /-- A carriage return was read among those blanks. -/
  | continuedReturn
  | hexFirst
  | hexSecond (first : Char)
  | codePointOpen
  /-- Inside the braces of a code point, with the digits so far and their value. -/
  | codePoint (digits value : Nat)
  deriving DecidableEq, Repr

/-- What a character does to the situation. -/
inductive QuoteStep where
  | move (s : QuoteState)
  | close
  | reject
  deriving DecidableEq, Repr

/-- The value of a hexadecimal digit. -/
def hexValue? (c : Char) : Option Nat :=
  if '0' ≤ c ∧ c ≤ '9' then some (c.toNat - 48)
  else if 'a' ≤ c ∧ c ≤ 'f' then some (c.toNat - 87)
  else if 'A' ≤ c ∧ c ≤ 'F' then some (c.toNat - 55)
  else none

/-- Whether the number is a character's code point. -/
def isScalar (n : Nat) : Bool := n < 0xD800 || (0xDFFF < n && n < 0x110000)

/-- A character in the body. -/
def bodyStep (k : StringKind) (c : Char) : QuoteStep :=
  if c = '"' then .close
  else if c = '\r' then .move .afterReturn
  else if c = '\\' then .move .escape
  else if k.allows c then .move .body
  else .reject

/-- The character after a backslash. -/
def escapeStep (k : StringKind) (c : Char) : QuoteStep :=
  if c = 'x' then .move .hexFirst
  else if c = 'n' ∨ c = 'r' ∨ c = 't' ∨ c = '\\' ∨ c = '\'' ∨ c = '"' then .move .body
  else if c = '0' then if k = .terminated then .reject else .move .body
  else if c = 'u' then if k = .bytes then .reject else .move .codePointOpen
  else if c = '\n' then .move .continued
  else if c = '\r' then .move .continuedReturn
  else .reject

/-- The second of two hexadecimal digits. -/
def hexSecondStep (k : StringKind) (first c : Char) : QuoteStep :=
  match hexValue? first, hexValue? c with
  | some a, some b =>
    match k with
    | .text => if a < 8 then .move .body else .reject
    | .bytes => .move .body
    | .terminated => if a = 0 ∧ b = 0 then .reject else .move .body
  | _, _ => .reject

/-- A character between the braces of a code point. -/
def codePointStep (k : StringKind) (digits value : Nat) (c : Char) : QuoteStep :=
  match hexValue? c with
  | some v => if digits = 6 then .reject else .move (.codePoint (digits + 1) (value * 16 + v))
  | none =>
    if digits = 0 then .reject
    else if c = '_' then .move (.codePoint digits value)
    else if c = '\x7d' then
      if isScalar value && !(k == .terminated && value == 0) then .move .body else .reject
    else .reject

/-- The machine that reads quoted text. -/
def quoteStep (k : StringKind) : QuoteState → Char → QuoteStep
  | .body, c => bodyStep k c
  | .afterReturn, c => if c = '\n' then .move .body else .reject
  | .escape, c => escapeStep k c
  | .continued, c =>
    if c = ' ' ∨ c = '\t' ∨ c = '\n' then .move .continued
    else if c = '\r' then .move .continuedReturn
    else bodyStep k c
  | .continuedReturn, c => if c = '\n' then .move .continued else .reject
  | .hexFirst, c => if (hexValue? c).isSome then .move (.hexSecond c) else .reject
  | .hexSecond first, c => hexSecondStep k first c
  | .codePointOpen, c => if c = '\x7b' then .move (.codePoint 0 0) else .reject
  | .codePoint digits value, c => codePointStep k digits value c

/-- Quoted text up to and with the closing quote. -/
def scanQuoted (k : StringKind) : QuoteState → List Char → Split
  | _, [] => none
  | s, c :: cs =>
    match quoteStep k s c with
    | .close => some ([c], cs)
    | .move s' => push c (scanQuoted k s' cs)
    | .reject => none

/-- The rest of one escape; a line break cannot be escaped here. -/
def scanEscape (k : StringKind) : QuoteState → List Char → Split
  | .body, cs => some ([], cs)
  | .continued, _ => none
  | .continuedReturn, _ => none
  | _, [] => none
  | s, c :: cs =>
    match quoteStep k s c with
    | .move s' => push c (scanEscape k s' cs)
    | _ => none

/-- One character or escape and a closing single quote. -/
def scanSingle (k : StringKind) : List Char → Split
  | [] => none
  | '\\' :: cs =>
    match scanEscape k .escape cs with
    | some (e, '\'' :: rest) => some ('\\' :: e ++ ['\''], rest)
    | _ => none
  | c :: cs =>
    if k = .bytes ∧ 128 ≤ c.toNat then none
    else match cs with
      | '\'' :: rest => some ([c, '\''], rest)
      | _ => none

/-- Raw text up to the quote that the hash signs follow. -/
def scanRawBody (k : StringKind) (hashes : List Char) : List Char → Split
  | [] => none
  | c :: cs =>
    if c = '"' ∧ hashes.isPrefixOf cs then some ('"' :: hashes, cs.drop hashes.length)
    else if c = '\r' ∧ cs.head? ≠ some '\n' then none
    else if k.allows c then push c (scanRawBody k hashes cs)
    else none

/-- Hash signs, a quote, and raw text up to the same signs. -/
def scanRaw (k : StringKind) (cs : List Char) : Split :=
  let (hashes, rest) := span (· == '#') cs
  match rest with
  | '"' :: body =>
    if 255 < hashes.length then none
    else pushAll (hashes ++ ['"']) (scanRawBody k hashes body)
  | _ => none

/-- A literal's suffix, if a name follows it. -/
def withSuffix : Split → Split
  | none => none
  | some (text, rest) =>
    match scanName rest with
    | some (name, rest') => some (text ++ name, rest')
    | none => some (text, rest)

/-! ## Numbers -/

/-- Digits and underscores. -/
def isDigitOrLine (c : Char) : Bool := c.isDigit || c == '_'

/-- The exponent of a number with the mantissa `mant`, from its letter `e` on. Where no exponent
follows, the number ends before the letter if it has a point, and is no such number otherwise. -/
def scanExponent (mant : List Char) (hasPoint : Bool) (e : Char) (cs : List Char) : Split :=
  let without : Split := if hasPoint then some (mant, e :: cs) else none
  let (lines, rest) := span (· == '_') cs
  match rest with
  | '+' :: more =>
    let (ds, rest') := span isDigitOrLine more
    if ds.any Char.isDigit then some (mant ++ e :: lines ++ '+' :: ds, rest') else without
  | '-' :: more =>
    let (ds, rest') := span isDigitOrLine more
    if ds.any Char.isDigit then some (mant ++ e :: lines ++ '-' :: ds, rest') else without
  | _ =>
    let (ds, rest') := span isDigitOrLine rest
    if ds.any Char.isDigit then some (mant ++ e :: lines ++ ds, rest') else without

/-- What may follow the mantissa. -/
def scanAfterMantissa (mant : List Char) (hasPoint : Bool) : List Char → Split
  | 'e' :: cs => scanExponent mant hasPoint 'e' cs
  | 'E' :: cs => scanExponent mant hasPoint 'E' cs
  | cs => if hasPoint then some (mant, cs) else none

/-- The digits of a number with a point or an exponent. A point that another point or a name follows
is not part of a number. -/
def scanFloatDigits : List Char → Split
  | [] => none
  | d :: ds =>
    if !d.isDigit then none
    else
      let (whole, rest) := span isDigitOrLine (d :: ds)
      match rest with
      | '.' :: after =>
        if (after.head?.map fun c => c == '.' || isNameStart c).getD false then none
        else
          let (fraction, rest') := span isDigitOrLine after
          scanAfterMantissa (whole ++ '.' :: fraction) true rest'
      | _ => scanAfterMantissa whole false rest

/-- Digits in a base; `empty` until the first one. A digit that the base does not have is an error,
where a letter would end the number. -/
def scanDigits (base : Nat) : Bool → List Char → Split
  | empty, [] => if empty then none else some ([], [])
  | empty, c :: cs =>
    if c.isDigit then
      if base ≤ c.toNat - 48 then none else push c (scanDigits base false cs)
    else if base = 16 ∧ (hexValue? c).isSome then push c (scanDigits base false cs)
    else if c = '_' then
      if empty ∧ base = 10 then none else push c (scanDigits base empty cs)
    else if empty then none
    else some ([], c :: cs)

/-- The digits of a whole number, with the mark of its base. -/
def scanIntDigits : List Char → Split
  | '0' :: 'x' :: cs => pushAll ['0', 'x'] (scanDigits 16 true cs)
  | '0' :: 'o' :: cs => pushAll ['0', 'o'] (scanDigits 8 true cs)
  | '0' :: 'b' :: cs => pushAll ['0', 'b'] (scanDigits 2 true cs)
  | cs => scanDigits 10 true cs

/-- A number's suffix. After it no further character of a name may follow. -/
def withNumberSuffix (s : Split) : Split :=
  match withSuffix s with
  | some (text, c :: rest) => if isNameContinue c then none else some (text, c :: rest)
  | other => other

/-! ## All literals -/

/-- The first recogniser that succeeds. -/
def orElse : Split → (Unit → Split) → Split
  | some p, _ => some p
  | none, f => f ()

/-- A string, byte or character literal. -/
def scanQuotedLiteral : List Char → Split
  | '"' :: cs => withSuffix (push '"' (scanQuoted .text .body cs))
  | '\'' :: cs => withSuffix (push '\'' (scanSingle .text cs))
  | 'r' :: cs => withSuffix (push 'r' (scanRaw .text cs))
  | 'b' :: '"' :: cs => withSuffix (pushAll ['b', '"'] (scanQuoted .bytes .body cs))
  | 'b' :: 'r' :: cs => withSuffix (pushAll ['b', 'r'] (scanRaw .bytes cs))
  | 'b' :: '\'' :: cs => withSuffix (pushAll ['b', '\''] (scanSingle .bytes cs))
  | 'c' :: '"' :: cs => withSuffix (pushAll ['c', '"'] (scanQuoted .terminated .body cs))
  | 'c' :: 'r' :: cs => withSuffix (pushAll ['c', 'r'] (scanRaw .terminated cs))
  | _ => none

/-- A literal of any form, with its suffix. -/
def scanLiteral (cs : List Char) : Split :=
  orElse (scanQuotedLiteral cs) fun _ =>
  orElse (withNumberSuffix (scanFloatDigits cs)) fun _ =>
  withNumberSuffix (scanIntDigits cs)

end DispatchLayer.Scan
