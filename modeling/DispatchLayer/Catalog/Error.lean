/-!
# Malformed catalogs

What can be wrong with an entry of a catalog, and the report about all such entries. Entries are
counted from zero, the lines of a report from one.
-/

namespace DispatchLayer

/-- What is wrong with the entry at an index. -/
inductive CatalogError where
  | emptyEntry (index : Nat)
  | invalidIdent (index : Nat) (name : String)
  | reserved (index : Nat) (name : String)
  | duplicate (index : Nat) (name : String)
  /-- The names derived from two different kinds are the same. -/
  | nameCollision (index : Nat) (name other derived : String)
  deriving DecidableEq, Repr

namespace CatalogError

/-- The index of the entry. -/
def index : CatalogError → Nat
  | .emptyEntry i => i
  | .invalidIdent i _ => i
  | .reserved i _ => i
  | .duplicate i _ => i
  | .nameCollision i _ _ _ => i

/-- The report about one entry. -/
def message : CatalogError → String
  | .emptyEntry i => s!"entry {i} is empty (stray ',' in the kind list?)"
  | .invalidIdent i n => s!"entry {i} `{n}` is not a valid Rust identifier"
  | .reserved i n => s!"entry {i} `{n}` is reserved for generated code"
  | .duplicate i n => s!"entry {i} `{n}` is listed more than once"
  | .nameCollision i n o d => s!"entry {i} `{n}` and `{o}` both generate the method name `{d}`"

end CatalogError

/-- What is wrong with a catalog, in the order of its entries. -/
structure CatalogErrors where
  errors : List CatalogError
  deriving DecidableEq, Repr

namespace CatalogErrors

/-- The collection of one error. -/
def single (e : CatalogError) : CatalogErrors := ⟨[e]⟩

/-- The collection of the errors, unless there are none. -/
def ofList? (es : List CatalogError) : Option CatalogErrors :=
  if es.isEmpty then none else some ⟨es⟩

/-- Number of errors. -/
def size (es : CatalogErrors) : Nat := es.errors.length

/-- The numbered lines of a report. -/
def lines : Nat → List CatalogError → String
  | _, [] => ""
  | k, e :: rest =>
    let text := e.message
    s!"  {k}: {text}\n" ++ lines (k + 1) rest

/-- The report about a catalog: one line for a single error, otherwise a count and a line for each,
every line ended. -/
def message (es : CatalogErrors) : String :=
  match es.errors with
  | [e] => "invalid node-kind catalog: " ++ e.message
  | all =>
    let count := all.length
    s!"invalid node-kind catalog ({count} errors):\n" ++ lines 1 all

end CatalogErrors

end DispatchLayer
