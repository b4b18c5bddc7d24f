import DispatchLayer.CommandLine.Key
import DispatchLayer.Text.Plain

/-!
# Misuse of the command line

The ways in which a command line can be wrong, and the report on each. Arguments are repeated in a
report as plain text.
-/

namespace DispatchLayer.CommandLine

/-- What is wrong with a command line. -/
inductive Misuse where
  /-- An option has no value, or an empty one where that is refused. -/
  | noValue (key : Key)
  /-- An option is given twice. -/
  | repeated (key : Key)
  /-- A switch was given a value. The usage line shows the options given. -/
  | unneededValue (value : String) (key : Key) (given : List Key)
  /-- An argument is none of the options, or stands where no argument can. The usage line shows the
  options given, and an option with a similar name may be suggested. -/
  | unexpected (argument : String) (similar : Option Key) (given : List Key)
  deriving DecidableEq, Repr

/-- The first lines of the report, up to the usage line or the last line. -/
def Misuse.summary : Misuse → String
  | .noValue key => "error: a value is required for '" ++ key.usage ++ "' but none was supplied\n\n"
  | .repeated key =>
    "error: the argument '" ++ key.usage ++ "' cannot be used multiple times\n\n"
  | .unneededValue value key _ =>
    "error: unexpected value '" ++ Text.plain value ++ "' for '" ++ key.usage ++
      "' found; no more were expected\n\n"
  | .unexpected argument similar _ =>
    let tip := match similar with
      | some key => "  tip: a similar argument exists: '--" ++ key.long ++ "'\n\n"
      | none => ""
    "error: unexpected argument '" ++ Text.plain argument ++ "' found\n\n" ++ tip

/-- The options that the usage line shows; without a usage line `none`. -/
def Misuse.usage? : Misuse → Option (List Key)
  | .noValue _ => none
  | .repeated _ => some []
  | .unneededValue _ _ given => some given
  | .unexpected _ _ given => some given

/-- The report on a misuse. -/
def Misuse.message (m : Misuse) : String :=
  let usage := match m.usage? with
    | some given => usageLine given ++ "\n\n"
    | none => ""
  m.summary ++ usage ++ "For more information, try '--help'.\n"

/-- Why a command line asks for no run. -/
inductive Stop where
  /-- It asks for the help text. -/
  | help
  | misuse (m : Misuse)
  deriving DecidableEq, Repr

namespace Stop

/-- The text to show. -/
def message : Stop → String
  | .help => Help.text
  | .misuse m => m.message

/-- Whether the text goes to the error output. -/
def isError : Stop → Bool
  | .help => false
  | .misuse _ => true

/-- The exit code of the command. -/
def exitCode : Stop → Int32
  | .help => 0
  | .misuse _ => 2

end Stop

end DispatchLayer.CommandLine
