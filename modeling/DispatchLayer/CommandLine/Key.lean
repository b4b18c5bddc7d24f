import DispatchLayer.Naming

/-!
# The options of the command

Every option has a long name, some have a short one, and those that take a value name it. The help
text is made from this table.
-/

namespace DispatchLayer.CommandLine

/-- An option of the command. -/
inductive Key where
  | dir
  | ast
  | astPath
  | format
  | version
  | help
  deriving DecidableEq, Repr

namespace Key

/-- All options in the order of the help text. -/
def all : List Key := [.dir, .ast, .astPath, .format, .version, .help]

/-- The name after two hyphens. -/
def long : Key → String
  | .dir => "dir"
  | .ast => "ast"
  | .astPath => "ast-path"
  | .format => "format"
  | .version => "version"
  | .help => "help"

/-- The letter after one hyphen. -/
def short? : Key → Option Char
  | .dir => some 'd'
  | .version => some 'v'
  | .help => some 'h'
  | _ => none

/-- What the value of the option is called; options without one are switches. -/
def valueName? : Key → Option String
  | .dir => some "DIR"
  | .ast => some "KINDS"
  | .astPath => some "PATH"
  | _ => none

/-- The value of an option that is not given. -/
def default? : Key → Option String
  | .dir => some "."
  | .astPath => some Naming.defaultAstPath
  | _ => none

/-- What the option is for. -/
def about : Key → String
  | .dir => "Destination directory for handlers_gen.rs and visitor_gen.rs"
  | .ast => "Comma-separated node kinds (default: built-in syn catalog)"
  | .astPath => "Rust path of the module defining the node types"
  | .format => "Pretty-print the generated files"
  | .version => "Print version and exit"
  | .help => "Print help"

/-- Whether the option is followed by a value. -/
def takesValue (k : Key) : Bool := k.valueName?.isSome

/-- The option of a long name. -/
def ofLong? (name : String) : Option Key := all.find? fun k => k.long == name

/-- The option of a letter. -/
def ofShort? (c : Char) : Option Key := all.find? fun k => k.short? == some c

/-- The option as reports and usage lines write it. -/
def usage (k : Key) : String :=
  match k.valueName? with
  | some value => "--" ++ k.long ++ " <" ++ value ++ ">"
  | none => "--" ++ k.long

end Key

/-- The name of the command. -/
def commandName : String := "astv"

/-- The usage line for the options given. -/
def usageLine (given : List Key) : String :=
  let rest := if given.isEmpty then "[OPTIONS]" else " ".intercalate (given.map Key.usage)
  "Usage: " ++ commandName ++ " " ++ rest

namespace Help

/-- The left column of the help text: the names of an option. -/
def names (k : Key) : String :=
  match k.short? with
  | some c => "  -" ++ c.toString ++ ", " ++ k.usage
  | none => "      " ++ k.usage

/-- Width of the left column. -/
def width : Nat := (Key.all.map fun k => (names k).length).foldl max 0

/-- The line of an option. -/
def line (k : Key) : String :=
  let padding := String.ofList (List.replicate (width + 2 - (names k).length) ' ')
  let default := match k.default? with
    | some value => " [default: " ++ value ++ "]"
    | none => ""
  names k ++ padding ++ k.about ++ default ++ "\n"

/-- The help text. -/
def text : String :=
  "Generate a visitor/handler dispatch layer for a syntax tree\n\n" ++ usageLine [] ++
    "\n\nOptions:\n" ++ String.join (Key.all.map line)

end Help

end DispatchLayer.CommandLine
