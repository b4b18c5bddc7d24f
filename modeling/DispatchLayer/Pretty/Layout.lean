import DispatchLayer.Pretty.Document

/-!
# Setting documents on lines

First every command is measured: a break and a box reach up to the next break outside of the boxes
that open after it, so a box reaches past its own end. Then the commands are written from left to
right, with the room that is left in the line.

Widths are counted in bytes. A line has `margin` bytes, but at least `minRoom` behind its
indentation.
-/

namespace DispatchLayer.Pretty

/-- Bytes in a line. -/
def margin : Int := 89

/-- Bytes that every line has behind its indentation. -/
def minRoom : Int := 60

/-! ## Measuring -/

/-- A command with the width up to where it reaches. -/
abbrev Measured := Cmd × Nat

/-- The state of measuring from right to left. -/
structure Measuring where
  done : List Measured
  /-- The width from here to the next break that can be seen. -/
  reach : Nat
  /-- For every box that is entered, the width in it so far, and the reach after its end. -/
  boxes : List (Nat × Nat)

/-- Add a width to the innermost box. -/
def widen (n : Nat) : List (Nat × Nat) → List (Nat × Nat)
  | [] => []
  | (w, after) :: rest => (w + n, after) :: rest

/-- Measure one command, given what follows it. -/
def measureStep (c : Cmd) (m : Measuring) : Measuring :=
  match c with
  | .text s =>
    let n := s.utf8ByteSize
    ⟨(c, n) :: m.done, m.reach + n, widen n m.boxes⟩
  | .excess => ⟨(c, unbounded) :: m.done, m.reach + unbounded, widen unbounded m.boxes⟩
  | .brk b => ⟨(c, b.blank + m.reach) :: m.done, 0, widen b.blank m.boxes⟩
  | .endBox => ⟨(c, 0) :: m.done, m.reach, (0, m.reach) :: m.boxes⟩
  | .box _ _ =>
    match m.boxes with
    | [] => ⟨(c, m.reach) :: m.done, m.reach, []⟩
    | (w, after) :: outer => ⟨(c, w + after) :: m.done, w + after, widen w outer⟩
  | _ => m

/-- The measured commands of a document. -/
def measure (d : Doc) : List Measured := (d.foldr measureStep ⟨[], 0, []⟩).done

/-! ## Writing -/

/-- How the breaks of a box behave: as parts of the line, or with the indentation to return to. -/
inductive BoxMode where
  | fits
  | broken (outer : Int) (consistent : Bool)

/-- The state of writing. -/
structure Writing where
  out : String
  indent : Int
  /-- Spaces that are due before the next text. -/
  pending : Nat
  /-- Room left in the line. -/
  room : Int
  boxes : List BoxMode

/-- Write a text, with the spaces that are due before it. -/
def Writing.put (w : Writing) (s : String) : Writing :=
  { w with
    out := (w.out ++ String.ofList (List.replicate w.pending ' ')) ++ s
    pending := 0
    room := w.room - s.utf8ByteSize }

/-- Write a text unless it is empty. -/
def Writing.putIf (w : Writing) (s : String) : Writing := if s.isEmpty then w else w.put s

/-- Whether a break of the given reach ends the line. -/
def Writing.ends (w : Writing) (b : Break) (reach : Nat) : Bool :=
  if b.never then false
  else match w.boxes with
    | .fits :: _ => false
    | .broken _ true :: _ => true
    | _ => w.room < reach

/-- End the line. -/
def Writing.newLine (w : Writing) (b : Break) : Writing :=
  let w := w.putIf b.lineEnd
  let column := (w.indent + b.offset).toNat
  let w := { w with
    out := w.out ++ "\n"
    pending := column
    room := max (margin - column) minRoom }
  w.putIf b.lineStart

/-- Go on in the line. -/
def Writing.goOn (w : Writing) (b : Break) : Writing :=
  { w with
    out := w.out ++ b.inLine
    pending := w.pending + b.blank
    room := w.room - b.blank - b.inLine.utf8ByteSize }

/-- Write one command. -/
def Writing.step (w : Writing) (m : Measured) : Writing :=
  match m.1 with
  | .text s => w.put s
  | .box n c =>
    if w.room < m.2 then { w with indent := w.indent + n, boxes := .broken w.indent c :: w.boxes }
    else { w with boxes := .fits :: w.boxes }
  | .endBox =>
    match w.boxes with
    | .broken outer _ :: rest => { w with indent := outer, boxes := rest }
    | _ :: rest => { w with boxes := rest }
    | [] => w
  | .brk b => if w.ends b m.2 then w.newLine b else w.goOn b
  | .excess => w.put ""
  | _ => w

/-- The text of a document that has no refusals. -/
def render (d : Doc) : String :=
  ((measure (settle d)).foldl Writing.step ⟨"", 0, 0, margin, []⟩).out

end DispatchLayer.Pretty
