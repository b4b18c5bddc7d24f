import DispatchLayer.Catalog.Builtin
import DispatchLayer.Text.Fields

/-!
# Catalogs of node kinds

A catalog is an ordered list of kind names: the built-in one, or a list of the user's. It is taken
as it is given, empty and repeated entries included; whether it can be lowered is decided elsewhere.

A list of kinds is written with commas. Blanks around an entry do not count, empty entries do, and a
blank text is the empty list.
-/

namespace DispatchLayer

/-- Where the entries of a catalog come from. -/
inductive CatalogSource where
  | builtin
  | explicit
  deriving DecidableEq, Repr

/-- The word for a source in reports. -/
def CatalogSource.label : CatalogSource → String
  | .builtin => "Builtin"
  | .explicit => "Explicit"

/-- An ordered list of kind names. -/
structure Catalog where
  kinds : List String
  source : CatalogSource
  deriving DecidableEq, Repr

namespace Catalog

/-- The catalog of the built-in kinds. -/
def builtin : Catalog := ⟨builtinKinds, .builtin⟩

/-- A catalog of the user's, as given. -/
def explicit (kinds : List String) : Catalog := ⟨kinds, .explicit⟩

/-- The catalog for a run: the kinds given, or the built-in ones if none are. -/
def resolve (kinds : List String) : Catalog :=
  if kinds.isEmpty then builtin else explicit kinds

/-- Number of entries. -/
def size (c : Catalog) : Nat := c.kinds.length

/-- The entries of a comma-separated list. -/
def parseKinds (list : String) : List String :=
  if (Text.trimChars list.toList).isEmpty then []
  else (Text.fields ',' list.toList).map fun f => String.ofList (Text.trimChars f)

end Catalog

end DispatchLayer
