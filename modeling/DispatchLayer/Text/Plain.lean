/-!
# Plain text

A report is plain text. An argument that it repeats may hold control characters, and sequences by
which they steer a terminal; both are left out, and of the control characters only those for white
space stay.
-/

namespace DispatchLayer.Text

/-- What a character belongs to. -/
inductive ControlMode where
  /-- To the text. -/
  | text
  /-- To a sequence that has just begun. -/
  | escape
  /-- To a sequence of intermediate characters, which a later one ends. -/
  | intermediate
  /-- To a sequence with parameters, which a letter ends. -/
  | parameters
  /-- To a command, which a bell ends. -/
  | command
  /-- To a string for the terminal, which its terminator ends. -/
  | string
  /-- To the head of a string for a device: its beginning, ... -/
  | deviceEntry
  /-- ... its parameters, ... -/
  | deviceParameters
  /-- ... or the intermediate characters after them. No terminator counts in a head. -/
  | deviceIntermediate
  deriving DecidableEq, Repr

/-- The control characters for white space. -/
def isControlBlank (c : Char) : Bool := c = '\t' || c = '\n' || c = '\x0c' || c = '\r'

/-- Whether a character is between two others. -/
def isBetween (low high c : Char) : Bool := low ≤ c && c ≤ high

/-- Whether the bytes of a character hold the byte that terminates strings. -/
def holdsTerminator (c : Char) : Bool := (String.utf8EncodeChar c).contains 0x9c

/-- What follows a character in the head of a string for a device. A letter ends the head, and so
does a character that does not belong there. -/
def ControlMode.deviceStep (mode : ControlMode) (c : Char) : ControlMode :=
  if isBetween '@' '~' c then .string
  else if isBetween ' ' '/' c then .deviceIntermediate
  else if !isBetween '0' '?' c then mode
  else if mode = .deviceIntermediate || c = ':' then .string
  else if mode = .deviceParameters && isBetween '<' '?' c then .string
  else .deviceParameters

/-- What follows a character belongs to, and whether the character is shown. -/
def ControlMode.step (mode : ControlMode) (c : Char) : ControlMode × Bool :=
  if c = '\x18' || c = '\x1a' then (.text, false)
  else if c = '\x1b' then (.escape, false)
  else
    match mode with
    | .text => (.text, isControlBlank c || (' ' ≤ c && c ≠ '\x7f'))
    | .command => (if c = '\x07' then .text else .command, false)
    | .string => (if holdsTerminator c then .text else .string, false)
    | .deviceEntry => (mode.deviceStep c, false)
    | .deviceParameters => (mode.deviceStep c, false)
    | .deviceIntermediate => (mode.deviceStep c, false)
    | mode =>
      if isControlBlank c then (.text, true)
      else if mode = .parameters then (if isBetween '@' '~' c then .text else mode, false)
      else if isBetween ' ' '/' c then (.intermediate, false)
      else if !isBetween '0' '~' c || mode = .intermediate then
        (if isBetween '0' '~' c then .text else mode, false)
      else if c = '[' then (.parameters, false)
      else if c = ']' then (.command, false)
      else if c = 'P' then (.deviceEntry, false)
      else if ['X', '^', '_'].contains c then (.string, false)
      else (.text, false)

/-- The characters shown, from a mode on. -/
def plainChars : ControlMode → List Char → List Char
  | _, [] => []
  | mode, c :: cs =>
    let (next, shown) := mode.step c
    if shown then c :: plainChars next cs else plainChars next cs

/-- The text without control characters and sequences. -/
def plain (s : String) : String := String.ofList (plainChars .text s.toList)

end DispatchLayer.Text
