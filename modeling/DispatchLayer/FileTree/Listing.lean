import DispatchLayer.FileTree

/-!
# Listing file trees

The listing of a tree has a line for each entry, depth first, the entries of a directory in the
order of their names. A directory comes right before its entries, so this is the order of the
locations as lists of names.
-/

namespace DispatchLayer.FileTree

/-- Whether a location comes first, name by name. -/
def precedes : Location → Location → Bool
  | [], _ => true
  | _ :: _, [] => false
  | a :: as, b :: bs => if a = b then precedes as bs else a < b

/-- The line of an entry: a file with its length, a link with its target. -/
def listingLine (loc : Location) (e : Entry) : String :=
  let path := "/".intercalate loc
  match e with
  | .file content => path ++ " " ++ toString content.size
  | .directory => path ++ "/"
  | .link target => path ++ " -> " ++ target

/-- The listing of a tree. -/
def listing (t : FileTree) : List String :=
  (t.entries.mergeSort fun a b => precedes a.1 b.1).map fun p => listingLine p.1 p.2

end DispatchLayer.FileTree
