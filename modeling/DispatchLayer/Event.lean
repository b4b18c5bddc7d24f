import DispatchLayer.Artifact
import DispatchLayer.Catalog

/-!
# Events of a run

What a run reports about itself while it goes on, each event with a level, a message and named
values.
-/

namespace DispatchLayer

/-- How much an event matters. -/
inductive Level where
  | debug
  | info
  | warn
  deriving DecidableEq, Repr

/-- The word for a level. -/
def Level.label : Level → String
  | .debug => "DEBUG"
  | .info => "INFO"
  | .warn => "WARN"

/-- A value in an event. -/
inductive FieldValue where
  | count (n : Nat)
  | text (s : String)
  deriving DecidableEq, Repr

/-- Something that happened in a run. -/
inductive Event where
  /-- It is settled which kinds are meant. -/
  | catalogResolved (kinds : Nat) (source : CatalogSource)
  /-- The module is known, from this manifest. -/
  | moduleResolved (moduleId manifest : String)
  /-- All kinds have been accepted. -/
  | catalogLowered (kinds : Nat)
  /-- There are tokens for both artifacts. -/
  | artifactsEmitted
  /-- A file that the generator did not make is about to be replaced. -/
  | replacing (path : String)
  /-- A file has been written. -/
  | fileWritten (path : String) (bytes : Nat)
  /-- An artifact is in place. -/
  | artifactWritten (kind : ArtifactKind) (path moduleId : String)
  deriving DecidableEq, Repr

/-- Whether events of a level are shown under a filter, the word for the least level shown. Without
a word that is known, events of no less than the middle level are. -/
def Level.isShown (filter : String) (l : Level) : Bool :=
  match filter with
  | "off" => false
  | "error" => false
  | "warn" => l = .warn
  | "debug" => true
  | "trace" => true
  | _ => l ≠ .debug

namespace Event

/-- How much the event matters. -/
def level : Event → Level
  | .replacing _ => .warn
  | .artifactWritten _ _ _ => .info
  | _ => .debug

/-- What the event says. -/
def message : Event → String
  | .catalogResolved _ _ => "resolved node-kind catalog"
  | .moduleResolved _ _ => "resolved module identifier"
  | .catalogLowered _ => "lowered node-kind catalog"
  | .artifactsEmitted => "emitted handlers and visitor artifacts"
  | .replacing _ => "replacing a file that was not generated by astv"
  | .fileWritten _ _ => "wrote artifact"
  | .artifactWritten kind _ _ => "wrote " ++ kind.label ++ " artifact"

/-- The values that go with the event. -/
def fields : Event → List (String × FieldValue)
  | .catalogResolved kinds source => [("kinds", .count kinds), ("source", .text source.label)]
  | .moduleResolved moduleId manifest => [("module", .text moduleId), ("manifest", .text manifest)]
  | .catalogLowered kinds => [("kinds", .count kinds)]
  | .artifactsEmitted => []
  | .replacing path => [("path", .text path)]
  | .fileWritten path bytes => [("path", .text path), ("bytes", .count bytes)]
  | .artifactWritten _ path moduleId => [("path", .text path), ("module", .text moduleId)]

/-- The event on one line. -/
def text (e : Event) : String :=
  let field := fun (f : String × FieldValue) =>
    f.1 ++ "=" ++ match f.2 with
      | .count n => toString n
      | .text s => s
  " ".intercalate (e.level.label :: e.message :: e.fields.map field)

end Event

end DispatchLayer
