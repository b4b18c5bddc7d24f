import DispatchLayer.Catalog
import DispatchLayer.Catalog.Error
import DispatchLayer.Naming
import DispatchLayer.Token.Lexer
import DispatchLayer.Token.Keyword

/-!
# From a catalog to a dispatch plan

A dispatch plan holds, for every kind, all the names that the generated code needs. It is made from
a catalog entry by entry. An entry is refused when it is empty, is not an identifier, is reserved,
is listed before, or has the same name in snake case as an entry accepted before; a kind whose slot
would be the catch-all's counts as reserved. One refused entry refuses the catalog, and all refusals
are reported together.

The verdicts on the entries are a list in their order (`verdicts`); the errors and the accepted
kinds are its two halves.
-/

namespace DispatchLayer

/-- A kind with the names that are derived from it. -/
structure KindNames where
  /-- The kind; also the variant of the node type and the last segment of the kind's own type. -/
  name : String
  /-- The handler trait. -/
  handlerTrait : String
  /-- The method of the handler trait. -/
  method : String
  /-- The field of the visitor that holds the handler. -/
  slot : String
  /-- The method of the visitor that registers a handler. -/
  registerFn : String
  deriving DecidableEq, Repr

/-- The names derived from a kind. -/
def KindNames.ofName (name : String) : KindNames :=
  let snake := Text.snakeCase name
  { name
    handlerTrait := Naming.handlerTrait name
    method := Keyword.escape snake
    slot := Naming.slotOf snake
    registerFn := Naming.registerOf snake }

/-- Everything that emission needs to know. -/
structure DispatchPlan where
  /-- The module the generated code belongs to. -/
  moduleId : String
  /-- The path of the module with the node types. -/
  astPath : String
  /-- The kinds in the order of emission. -/
  kinds : List KindNames
  deriving DecidableEq, Repr

/-- Number of slots of the visitor: one for each kind, and the catch-all's. -/
def DispatchPlan.slotCount (p : DispatchPlan) : Nat := p.kinds.length + 1

namespace Plan

/-- Whether the text is one name, and not a keyword. Blanks and comments around it do not count. -/
def isPlainName (name : String) : Bool :=
  match Token.ofText? name with
  | some [.ident text] => !Keyword.isReserved text
  | _ => false

/-- What an entry can be refused for on its own account. -/
def entryError? (index : Nat) (name : String) : Option CatalogError :=
  if name.isEmpty then some (.emptyEntry index)
  else if name.toList.contains '#' || !isPlainName name then some (.invalidIdent index name)
  else if Naming.isReservedKind name then some (.reserved index name)
  else none

/-- What the entries before have used up. -/
structure Taken where
  /-- The names that were good on their own account. -/
  names : List String
  /-- The snake-case forms of the kinds accepted, each with its kind. -/
  forms : List (String × String)

/-- The verdict on an entry. -/
def verdict (taken : Taken) (index : Nat) (name : String) : Except CatalogError KindNames :=
  match entryError? index name with
  | some e => .error e
  | none =>
    if taken.names.contains name then .error (.duplicate index name)
    else if (KindNames.ofName name).slot = Naming.defaultSlot then .error (.reserved index name)
    else
      match taken.forms.lookup (Text.snakeCase name) with
      | some other => .error (.nameCollision index name other (Text.snakeCase name))
      | none => .ok (KindNames.ofName name)

/-- What is used up after an entry. -/
def Taken.after (taken : Taken) (index : Nat) (name : String) : Taken :=
  match entryError? index name with
  | some _ => taken
  | none =>
    let names := if taken.names.contains name then taken.names else name :: taken.names
    match verdict taken index name with
    | .ok _ => ⟨names, (Text.snakeCase name, name) :: taken.forms⟩
    | .error _ => ⟨names, taken.forms⟩

/-- The verdicts on the entries from an index on. -/
def verdictsFrom : Taken → Nat → List String → List (Except CatalogError KindNames)
  | _, _, [] => []
  | taken, index, name :: rest =>
    verdict taken index name :: verdictsFrom (taken.after index name) (index + 1) rest

/-- The verdicts on the entries of a catalog. -/
def verdicts (c : Catalog) : List (Except CatalogError KindNames) := verdictsFrom ⟨[], []⟩ 0 c.kinds

/-- The refusals among the verdicts. -/
def errorsOf (vs : List (Except CatalogError KindNames)) : List CatalogError :=
  vs.filterMap fun v => match v with
    | .error e => some e
    | .ok _ => none

/-- The kinds accepted among the verdicts. -/
def kindsOf (vs : List (Except CatalogError KindNames)) : List KindNames :=
  vs.filterMap fun v => match v with
    | .error _ => none
    | .ok k => some k

end Plan

/-- The dispatch plan of a catalog, or everything that is wrong with the catalog. The path of the
node types is not looked at. -/
def Catalog.lower (c : Catalog) (moduleId astPath : String) : Except CatalogErrors DispatchPlan :=
  match CatalogErrors.ofList? (Plan.errorsOf (Plan.verdicts c)) with
  | some es => .error es
  | none => .ok ⟨moduleId, astPath, Plan.kindsOf (Plan.verdicts c)⟩

end DispatchLayer
