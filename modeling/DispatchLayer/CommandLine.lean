import DispatchLayer.Catalog
import DispatchLayer.CommandLine.Misuse
import DispatchLayer.Text.Similarity

/-!
# The command line

Arguments are read one after the other. A value is attached to its option (`--dir=x`, `-dx`, `-d=x`)
or is the next argument, unless that looks like an option. A separate value is looked at only when
the next option or the end is reached, so a later argument that is no option at all is reported
before it.

Reading `--name=value` gives the value back whatever characters it has.
-/

namespace DispatchLayer.CommandLine

/-- What an argument looks like. -/
inductive Shape where
  /-- Two hyphens: no options follow. -/
  | escape
  /-- Two hyphens and a name, with the text after the first equals sign as value. -/
  | long (name : String) (value : Option String)
  /-- One hyphen and letters. -/
  | cluster (letters : List Char)
  /-- Neither. A hyphen alone is such a text. -/
  | plain
  deriving DecidableEq, Repr

/-- A long option's name and value. -/
def splitLong (cs : List Char) : Shape :=
  let name := cs.takeWhile (· != '=')
  match cs.dropWhile (· != '=') with
  | [] => .long (String.ofList name) none
  | _ :: value => .long (String.ofList name) (some (String.ofList value))

/-- What an argument looks like. -/
def Shape.of (argument : String) : Shape :=
  match argument.toList with
  | ['-', '-'] => .escape
  | '-' :: '-' :: cs => splitLong cs
  | '-' :: c :: cs => .cluster (c :: cs)
  | _ => .plain

/-- How far the arguments have been read. -/
structure Progress where
  /-- The options given, with their values, in order. -/
  given : List (Key × Option String)
  /-- The last option, if its value is a separate argument: the value, once that has been read. -/
  pending : Option (Key × Option String)
  deriving DecidableEq, Repr

namespace Progress

/-- Nothing has been read. -/
def start : Progress := ⟨[], none⟩

/-- The options given. -/
def keys (p : Progress) : List Key := p.given.map (·.1)

/-- Take down an option. What is left after a misuse still counts for its report. -/
def record (p : Progress) (key : Key) (value : Option String) : Progress × Option Misuse :=
  if key.takesValue && value.isNone then (p, some (.noValue key))
  else if p.keys.contains key then
    ({ p with given := p.given.filter (·.1 != key) }, some (.repeated key))
  else
    let taken := { p with given := p.given ++ [(key, value)] }
    if key = .dir && value = some "" then (taken, some (.noValue key)) else (taken, none)

/-- Take down the option whose value was a separate argument. -/
def settle (p : Progress) : Progress × Option Misuse :=
  match p.pending with
  | some (key, value) => record { p with pending := none } key value
  | none => (p, none)

/-- Settle what is pending, and go on if that is well. -/
def settled (p : Progress) : Except Stop Progress :=
  match p.settle with
  | (_, some m) => .error (.misuse m)
  | (p, none) => .ok p

/-- Take down an option whose value is known. The help text is shown as soon as it is asked for. -/
def take (p : Progress) (key : Key) (value : Option String) : Except Stop Progress := do
  let p ← p.settled
  if key = .help then throw .help
  match p.record key value with
  | (_, some m) => throw (.misuse m)
  | (p, none) => return p

/-- Wait for the value of an option. -/
def await (p : Progress) (key : Key) : Except Stop Progress := do
  let p ← p.settled
  return { p with pending := some (key, none) }

/-- Whether the next argument can be a value. -/
def awaits (p : Progress) : Option Key :=
  match p.pending with
  | some (key, none) => some key
  | _ => none

/-- Read the letters after a single hyphen: switches, the last of which may be an option with its
value attached. -/
def readCluster (p : Progress) : List Char → Except Stop Progress
  | [] => .ok p
  | c :: cs =>
    match Key.ofShort? c with
    | none => .error (.misuse (.unexpected ("-" ++ c.toString) none []))
    | some key =>
      if key.takesValue then
        match cs with
        | [] => p.await key
        | '=' :: value => p.take key (some (String.ofList value))
        | value => p.take key (some (String.ofList value))
      else do readCluster (← p.take key none) cs

/-- The misuse of a long option that does not exist. -/
def unknownLong (p : Progress) (name : String) : Misuse :=
  let given := p.settle.1.keys
  let similar := (Text.mostSimilar? name (Key.all.map Key.long)).bind Key.ofLong?
  let shown := match similar with
    | some key => if given.contains key then given else given ++ [key]
    | none => given
  .unexpected ("--" ++ name) similar shown

/-- Read a long option. -/
def readLong (p : Progress) (name : String) (value : Option String) : Except Stop Progress :=
  match Key.ofLong? name with
  | none => .error (.misuse (p.unknownLong name))
  | some key =>
    if key.takesValue then
      match value with
      | some v => p.take key (some v)
      | none => p.await key
    else
      match value with
      | some v =>
        let given := p.keys
        let shown := if given.contains key then given else given ++ [key]
        .error (.misuse (.unneededValue v key shown))
      | none => p.take key none

/-- Read an argument that is no option: the value that is awaited, or nothing the command knows. -/
def readPlain (p : Progress) (argument : String) : Except Stop Progress :=
  match p.awaits with
  | some key => .ok { p with pending := some (key, some argument) }
  | none => .error (.misuse (.unexpected argument none []))

/-- Read arguments to the end. After two hyphens alone there can be no further argument. -/
def readAll : Progress → List String → Except Stop Progress
  | p, [] => p.settled
  | p, argument :: rest =>
    match Shape.of argument with
    | .escape =>
      match rest with
      | [] => p.settled
      | next :: _ => .error (.misuse (.unexpected next none []))
    | .long name value => do readAll (← p.readLong name value) rest
    | .cluster letters => do readAll (← p.readCluster letters) rest
    | .plain => do readAll (← p.readPlain argument) rest

/-- Whether an option is given. -/
def has (p : Progress) (key : Key) : Bool := p.keys.contains key

/-- The value given for an option. -/
def value? (p : Progress) (key : Key) : Option String := (p.given.lookup key).join

/-- The value for an option, given or by default. -/
def value (p : Progress) (key : Key) : String := (p.value? key).getD (key.default?.getD "")

end Progress

end CommandLine

/-- What a command line asks for. -/
structure CommandLine where
  dir : String
  /-- The list of kinds as it was written. -/
  ast : Option String
  astPath : String
  format : Bool
  version : Bool
  deriving DecidableEq, Repr

namespace CommandLine

/-- Read a command line, given without the name of the command. -/
def parse (arguments : List String) : Except Stop CommandLine := do
  let p ← Progress.start.readAll arguments
  return { dir := p.value .dir, ast := p.value? .ast, astPath := p.value .astPath,
           format := p.has .format, version := p.has .version }

/-- The kinds asked for; none stand for the built-in ones. -/
def kinds (c : CommandLine) : List String :=
  match c.ast with
  | some list => Catalog.parseKinds list
  | none => []

end CommandLine

end DispatchLayer
