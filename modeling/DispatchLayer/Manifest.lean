import DispatchLayer.Decimal.Shortest
import DispatchLayer.Text.Quoted
import DispatchLayer.Toml

/-!
# Package manifests

A manifest is a TOML document. All that counts in it is the name of the package: the `name` of the
table `package`. An array in place of the table is read by position, so its first item is the name.
A manifest may have no package at all, but a package without a name, or whose name is no string, is
an error.
-/

namespace DispatchLayer

/-- What is wrong with the package of a manifest. -/
inductive PackageError where
  /-- The table has no name. -/
  | missingName
  /-- The array has no items. -/
  | noItems
  /-- Something else stands where the package should. -/
  | notTable (found : String)
  /-- Something else stands where the name should. -/
  | notString (found : String)
  deriving DecidableEq, Repr

/-- The report about a package. -/
def PackageError.message : PackageError → String
  | .missingName => "missing field `name`"
  | .noItems => "invalid length 0, expected struct PackageSection with 1 element"
  | .notTable found => "invalid type: " ++ found ++ ", expected struct PackageSection"
  | .notString found => "invalid type: " ++ found ++ ", expected a string"

/-- Why the name of the package cannot be read off a manifest. -/
inductive ManifestError where
  /-- The text is no TOML document. -/
  | notToml
  | package (error : PackageError)
  deriving DecidableEq, Repr

/-- The report about a manifest. -/
def ManifestError.message : ManifestError → String
  | .notToml => "TOML parse error"
  | .package e => "TOML parse error\n" ++ e.message

namespace Manifest

open Toml

/-- A floating-point number in words. -/
def describeFloat : FloatValue → String
  | .finite negative x => (if negative then "-" else "") ++ x.shortest.text
  | .infinite negative => if negative then "-inf" else "inf"
  | .nan => "NaN"

/-- A value in words. A date counts as a map. -/
def describe : Node → String
  | .scalar (.string text) => "string " ++ Text.quoted text
  | .scalar (.integer n) => "integer `" ++ toString n ++ "`"
  | .scalar (.float x) => "floating point `" ++ describeFloat x ++ "`"
  | .scalar (.boolean b) => "boolean `" ++ toString b ++ "`"
  | .scalar .moment => "map"
  | .array _ => "sequence"
  | .tables _ => "sequence"
  | .inline _ _ => "map"
  | .table _ _ => "map"

/-- The name that a value stands for. -/
def nameOf : Node → Except PackageError String
  | .scalar (.string text) => .ok text
  | node => .error (.notString (describe node))

/-- The name in the entries of a package. -/
def nameAmong (entries : Entries) : Except PackageError String :=
  match entries.lookup "name" with
  | some node => nameOf node
  | none => .error .missingName

/-- The name of a package. -/
def packageName : Node → Except PackageError String
  | .table _ entries => nameAmong entries
  | .inline _ entries => nameAmong entries
  | .scalar .moment => .error .missingName
  | .array [] => .error .noItems
  | .array (item :: _) => nameOf item
  | .tables [] => .error .noItems
  | .tables (first :: _) => nameOf (.table .direct first)
  | node => .error (.notTable (describe node))

/-- The name of the package of a manifest, if it has a package. -/
def packageName? (text : String) : Except ManifestError (Option String) :=
  match ofText? text with
  | none => .error .notToml
  | some entries =>
    match entries.lookup "package" with
    | none => .ok none
    | some node =>
      match packageName node with
      | .ok name => .ok (some name)
      | .error e => .error (.package e)

end Manifest

end DispatchLayer
