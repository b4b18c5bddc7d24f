import DispatchLayer.CommandLine
import DispatchLayer.Run

/-!
# The command

What the command does with its arguments: it shows the help text, a report on a misuse or the
version, or it makes a run and lists the files written. The result is what it prints and its exit
code.
-/

namespace DispatchLayer

/-- The exit code of a command. -/
structure ExitCode where
  code : Int32
  deriving DecidableEq, Repr

namespace ExitCode

/-- All went well. -/
def success : ExitCode := ⟨0⟩

/-- The command could not do what it was asked to do. -/
def failure : ExitCode := ⟨1⟩

/-- The command broke off where it should not have. -/
def broken : ExitCode := ⟨101⟩

end ExitCode

/-- A report that ends the command, with the exit code. -/
structure CommandError where
  message : String
  exitCode : ExitCode
  deriving DecidableEq, Repr

namespace CommandError

/-- A report on an ordinary failure. -/
def failed (message : String) : CommandError := ⟨message, .failure⟩

/-- The report as it is shown. -/
def text (e : CommandError) : String := e.message

end CommandError

/-- What a command leaves behind, apart from files. -/
structure Output where
  exitCode : ExitCode
  standard : String
  error : String
  deriving DecidableEq, Repr

namespace Program

/-- Lines of text. -/
def lines (ls : List String) : String := String.join (ls.map fun l => l ++ "\n")

/-- The source that could not be formatted, to be shown before the report. -/
def unformatted : RunError → List String
  | .artifact _ (.format (.unreadable _ source)) => [source]
  | _ => []

/-- The report on a failed run. A string that spells no name breaks the command off, and so does
source that can be read but not set on lines. -/
def commandError (e : RunError) : CommandError :=
  match e with
  | .generate (.name n) => ⟨n.message, .broken⟩
  | .artifact _ (.format (.refused complaint)) => ⟨complaint, .broken⟩
  | e => .failed ("Error: " ++ e.message)

/-- The output of a run. -/
def outputOf : Except RunError (List String) → Output
  | .ok paths => ⟨.success, lines (paths.map fun p => "written: " ++ p), ""⟩
  | .error e =>
    let failure := commandError e
    ⟨failure.exitCode, "", lines (unformatted e ++ [failure.text])⟩

/-- The output when there is no run. -/
def outputOfStop (s : CommandLine.Stop) : Output :=
  if s.isError then ⟨⟨s.exitCode⟩, "", s.message⟩ else ⟨⟨s.exitCode⟩, s.message, ""⟩

end Program

/-- The run a command line asks for. -/
def CommandLine.runOptions (c : CommandLine) : RunOptions := ⟨c.dir, c.kinds, c.astPath, c.format⟩

/-- Do what the arguments ask for. -/
def Program.run {m : Type → Type} [Monad m] [Host m] (arguments : List String) : m Output := do
  match CommandLine.parse arguments with
  | .error s => return outputOfStop s
  | .ok c =>
    if c.version then
      return ⟨.success, lines [CommandLine.commandName ++ " " ++ generatorVersion], ""⟩
    else
      return outputOf (← (c.runOptions.run ModuleId.resolve : ExceptT RunError m (List String)).run)

end DispatchLayer
