/-!
# Documents of boxes and breaks

A document is a sequence of commands: texts, breaks, and boxes that open and close. A box that fits
into the line is set without line ends. In one that does not fit, every break ends the line if the
box is consistent, and otherwise those after which the text up to the next break would not fit.

Some commands act on what stands before them, or depend on it. `shift` moves the indentation of the
line that a break begins, if it directly follows that break. A box that closes right after a break
drops the break if that was all it held, or if the break vanishes at the end of a box; it may also
ask to be broken if it came out wider than some limit. Two points in a row are kept apart: a break
before a point, and a gap before the points of a range, are one space wide behind a point.

A document can also hold a refusal, in the place of a form that cannot be set at all. The first one
is the answer for the whole document.
-/

namespace DispatchLayer.Pretty

/-- A place where a line may end. -/
structure Break where
  /-- Spaces where the line goes on. -/
  blank : Nat
  /-- Indentation of the next line, relative to that of the box. -/
  offset : Int
  /-- What is written at the end of the line. -/
  lineEnd : String
  /-- What is written at the beginning of the next line. -/
  lineStart : String
  /-- What is written where the line goes on. -/
  inLine : String
  /-- Whether it is dropped at the end of a box. -/
  vanishes : Bool
  /-- Whether the line always goes on. -/
  never : Bool
  deriving DecidableEq, Repr

/-- A command. -/
inductive Cmd where
  | text (s : String)
  | box (indent : Int) (consistent : Bool)
  | endBox
  /-- The end of a box that is broken if it is wider than the limit. -/
  | endBoxWithin (limit : Nat)
  | brk (b : Break)
  | shift (n : Int)
  /-- A break before a point. -/
  | breakBeforePoint
  /-- A gap before the points of a range. -/
  | gapBeforePoints
  /-- Nothing, but wider than any line. -/
  | excess
  /-- A form that cannot be set. -/
  | refusal (message : String)
  deriving DecidableEq, Repr

/-- A sequence of commands. -/
abbrev Doc := List Cmd

/-- The width of a break that always ends the line: more than any line holds. -/
def unbounded : Nat := 0xffff

/-- A break without spaces. -/
def Break.zero : Break := ⟨0, 0, "", "", "", false, false⟩

/-! ## Short forms -/

/-- A text. -/
def word (s : String) : Doc := [.text s]

/-- A break without spaces. -/
def zeroBreak : Doc := [.brk Break.zero]

/-- A break of one space. -/
def space : Doc := [.brk { Break.zero with blank := 1 }]

/-- A break of one space, unless a box ends here. -/
def spaceIfNonempty : Doc := [.brk { Break.zero with blank := 1, vanishes := true }]

/-- The end of a line. -/
def hardBreak : Doc := [.brk { Break.zero with blank := unbounded }]

/-- The end of a line, unless a box ends here. -/
def hardBreakIfNonempty : Doc := [.brk { Break.zero with blank := unbounded, vanishes := true }]

/-- A break that never ends the line. -/
def neverBreak : Doc := [.brk { Break.zero with never := true }]

/-- Move the indentation after the break before. -/
def shift (n : Int) : Doc := [.shift n]

/-- A box in which all breaks end the line, or none. -/
def consistent (indent : Int) (d : Doc) : Doc := .box indent true :: d ++ [.endBox]

/-- A box in which breaks end the line as needed. -/
def inconsistent (indent : Int) (d : Doc) : Doc := .box indent false :: d ++ [.endBox]

/-- A box in which all breaks end the line if it is wider than the limit. -/
def consistentWithin (limit : Nat) (indent : Int) (d : Doc) : Doc :=
  .box indent true :: d ++ [.endBoxWithin limit]

/-- The step of an indentation. -/
def indent : Int := 4

/-- What follows an item of a list: a comma and a space, and after the last one a comma only where
the line ends. -/
def trailingComma (isLast : Bool) : Doc :=
  if isLast then [.brk { Break.zero with lineEnd := "," }] else word "," ++ space

/-- As `trailingComma`, with a space in place of the comma where the line goes on. -/
def trailingCommaOrSpace (isLast : Bool) : Doc :=
  if isLast then [.brk { Break.zero with blank := 1, lineEnd := "," }] else word "," ++ space

/-- Documents one after the other, each told whether it is the last. -/
def withLast {α : Type} (f : α → Bool → Doc) : List α → Doc
  | [] => []
  | [a] => f a true
  | a :: rest => f a false ++ withLast f rest

/-- Items of a list, each followed by its comma. -/
def commaItems (ds : List Doc) : Doc := withLast (fun d isLast => d ++ trailingComma isLast) ds

/-! ## Commands that act on what stands before them -/

/-- Whether the last text of a document ends in a point, the document being kept in reverse. -/
def endsInPoint : Doc → Bool
  | [] => false
  | .text s :: _ => s.toList.getLast? == some '.'
  | _ :: rest => endsInPoint rest

/-- The width of what follows the beginning of the innermost open box, the document being kept in
reverse; `inner` boxes that end there have not begun yet. -/
def widthOfBox : Nat → Doc → Nat
  | _, [] => 0
  | inner, .text s :: rest => s.utf8ByteSize + widthOfBox inner rest
  | inner, .brk b :: rest => b.blank + widthOfBox inner rest
  | inner, .excess :: rest => unbounded + widthOfBox inner rest
  | inner, .endBox :: rest => widthOfBox (inner + 1) rest
  | 0, .box _ _ :: _ => 0
  | inner + 1, .box _ _ :: rest => widthOfBox inner rest
  | inner, _ :: rest => widthOfBox inner rest

/-- End the innermost box of a document that is kept in reverse. -/
def pushEnd (rev : Doc) : Doc :=
  match rev with
  | .brk _ :: .box _ _ :: r => r
  | .brk b :: r => if b.vanishes then .endBox :: r else .endBox :: rev
  | _ => .endBox :: rev

/-- Add a command to a document that is kept in reverse. -/
def push (rev : Doc) : Cmd → Doc
  | .shift n =>
    match rev with
    | .brk b :: r => .brk { b with offset := b.offset + n } :: r
    | _ => rev
  | .endBox => pushEnd rev
  | .endBoxWithin limit =>
    pushEnd (if limit < widthOfBox 0 rev then .excess :: rev else rev)
  | .breakBeforePoint =>
    .brk { Break.zero with inLine := if endsInPoint rev then " " else "" } :: rev
  | .gapBeforePoints => if endsInPoint rev then .text " " :: rev else rev
  | c => c :: rev

/-- The document in which no command acts on another. -/
def settle (d : Doc) : Doc := (d.foldl push []).reverse

/-! ## Refusals -/

/-- The first refusal of a document. -/
def refusal? : Doc → Option String
  | [] => none
  | .refusal message :: _ => some message
  | _ :: rest => refusal? rest

end DispatchLayer.Pretty
