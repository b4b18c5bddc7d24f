import DispatchLayer.Decimal.Binary64

/-!
# Values of a TOML document

The tree that a document is read into. A table knows how it came about, since that decides whether a
later line may add to it.
-/

namespace DispatchLayer.Toml

/-- A floating-point number. -/
inductive FloatValue where
  | finite (negative : Bool) (magnitude : Binary64)
  | infinite (negative : Bool)
  | nan
  deriving DecidableEq, Repr

/-- A value without parts. -/
inductive Scalar where
  | string (text : String)
  | integer (value : Int)
  | float (value : FloatValue)
  | boolean (value : Bool)
  /-- A date, a time, or both. -/
  | moment
  deriving DecidableEq, Repr

/-- How a table came about. -/
inductive Origin where
  /-- It has a header of its own, or stands in braces. -/
  | direct
  /-- It is on the way to a table with a header. -/
  | onTheWay
  /-- It is named in a dotted key. -/
  | dotted
  deriving DecidableEq, Repr

/-- What a key stands for. -/
inductive Node where
  | scalar (value : Scalar)
  | array (items : List Node)
  /-- A table in braces. -/
  | inline (origin : Origin) (entries : List (String × Node))
  | table (origin : Origin) (entries : List (String × Node))
  /-- The tables under one header in double brackets, in order. -/
  | tables (all : List (List (String × Node)))

/-- What keys stand for, in order of appearance. -/
abbrev Entries := List (String × Node)

/-- A table that is being filled. -/
structure Table where
  origin : Origin
  entries : Entries

namespace Entries

/-- Let a key stand for something else. -/
def put (key : String) (node : Node) : Entries → Entries
  | [] => [(key, node)]
  | (k, old) :: rest => if k = key then (k, node) :: rest else (k, old) :: put key node rest

/-- Forget a key. -/
def remove (key : String) (entries : Entries) : Entries := entries.filter fun p => p.1 != key

end Entries

namespace Table

/-- A table without entries. -/
def new (origin : Origin) : Table := ⟨origin, []⟩

/-- The table as a node. -/
def node (t : Table) : Node := .table t.origin t.entries

/-- Work inside the table at a path of keys, making the tables that are missing on the way. A path
from a dotted key leads only through tables that may still be added to. Under a header in double
brackets, the last table is meant. -/
def within {α : Type} (dotted : Bool) : List String → (Table → Option (α × Table)) → Table →
    Option (α × Table)
  | [], work, t => work t
  | key :: path, work, t =>
    match t.entries.lookup key with
    | none => do
      let (a, inner) ← within dotted path work (.new (if dotted then .dotted else .onTheWay))
      return (a, { t with entries := Entries.put key inner.node t.entries })
    | some (.table origin entries) =>
      if dotted && origin == .direct then none
      else do
        let (a, inner) ← within dotted path work ⟨origin, entries⟩
        return (a, { t with entries := Entries.put key inner.node t.entries })
    | some (.tables all) => do
      let last ← all.getLast?
      let (a, inner) ← within dotted path work ⟨.direct, last⟩
      let all := all.dropLast ++ [inner.entries]
      return (a, { t with entries := Entries.put key (.tables all) t.entries })
    | some _ => none

/-- Add a key that the table does not have. -/
def addNew (key : String) (node : Node) (t : Table) : Option Table :=
  if (t.entries.lookup key).isSome then none
  else some { t with entries := t.entries ++ [(key, node)] }

/-- Add what the keys of a dotted key lead to. The table it ends in is made by dotted keys alone. -/
def addDotted (path : List String) (key : String) (node : Node) (t : Table) : Option Table := do
  let work := fun (inner : Table) =>
    if (inner.origin == .dotted) == path.isEmpty then none
    else (inner.addNew key node).map ((), ·)
  return (← within true path work t).2

end Table

/-! ## Tables in braces -/

/-- Add what a dotted key in braces leads to. -/
def addInline : List String → String → Node → Entries → Option Entries
  | [], key, node, entries =>
    if (entries.lookup key).isSome then none else some (entries ++ [(key, node)])
  | first :: path, key, node, entries =>
    match entries.lookup first with
    | none => do return Entries.put first (.inline .dotted (← addInline path key node [])) entries
    | some (.inline .dotted inner) => do
      return Entries.put first (.inline .dotted (← addInline path key node inner)) entries
    | some _ => none

/-- The table of pairs in braces. -/
def inlineTable (pairs : List (List String × String × Node)) : Option Node := do
  let entries ← pairs.foldlM (fun entries (path, key, node) => addInline path key node entries) []
  return .inline .direct entries

/-! ## The lines of a document -/

/-- A document that is being read: the finished tables, and the one that lines are added to. -/
structure Draft where
  root : Table
  current : Table
  /-- Where the current table belongs; the first lines belong to the root. -/
  path : List String
  /-- Whether the current table has a header in double brackets. -/
  isElement : Bool

namespace Draft

/-- Nothing has been read. -/
def start : Draft := ⟨.new .direct, .new .direct, [], false⟩

/-- Put the current table where it belongs. -/
def finish (d : Draft) : Option Table :=
  match d.path.getLast? with
  | none => some d.current
  | some key => do
    let work := fun (parent : Table) =>
      match parent.entries.lookup key with
      | none =>
        let node := if d.isElement then .tables [d.current.entries] else d.current.node
        some ((), { parent with entries := parent.entries ++ [(key, node)] })
      | some (.tables all) =>
        if d.isElement then
          some ((), { parent with
            entries := Entries.put key (.tables (all ++ [d.current.entries])) parent.entries })
        else none
      | some (.table .onTheWay _) | some (.table .dotted _) =>
        if d.isElement then none
        else some ((), { parent with entries := Entries.put key d.current.node parent.entries })
      | some _ => none
    return (← Table.within false d.path.dropLast work d.root).2

/-- Begin a table with a header. A table that was only on the way so far is gone on with. -/
def header (d : Draft) (path : List String) : Option Draft := do
  let root ← d.finish
  let key ← path.getLast?
  let work := fun (parent : Table) =>
    match parent.entries.lookup key with
    | none => some ([], parent)
    | some (.table .onTheWay entries) =>
      some (entries, { parent with entries := Entries.remove key parent.entries })
    | some _ => none
  let (entries, root) ← Table.within false path.dropLast work root
  return ⟨root, ⟨.direct, entries⟩, path, false⟩

/-- Begin a further table under a header in double brackets. -/
def element (d : Draft) (path : List String) : Option Draft := do
  let root ← d.finish
  let key ← path.getLast?
  let work := fun (parent : Table) =>
    match parent.entries.lookup key with
    | none => some ((), { parent with entries := parent.entries ++ [(key, .tables [])] })
    | some (.tables _) => some ((), parent)
    | some _ => none
  let (_, root) ← Table.within false path.dropLast work root
  return ⟨root, .new .direct, path, true⟩

/-- Add a key and its value to the current table. -/
def pair (d : Draft) (path : List String) (key : String) (node : Node) : Option Draft := do
  return { d with current := ← d.current.addDotted path key node }

end Draft

end DispatchLayer.Toml
