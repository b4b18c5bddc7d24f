import DispatchLayer.FileTree.Pathname

/-!
# File trees

A file tree holds files, directories and symbolic links below a top directory, each at the location
given by the names that lead to it. Pathnames are followed from a directory name by name: a link
is replaced by its target, and the forty-first link on the way is refused. Writing through a link
writes its target, and creates the target if only its directory exists.

One limit of a system is idealized. Pathnames beyond `Pathname.maxTextBytes` bytes are refused where
the caller's own pathname is opened, to be read or to be written (`readText`, `destination`). They
are not where a pathname is only resolved (`canonicalize`), nor where an entry is reached from its
directory (`placeIn`, `isFileIn`, `readTextIn`): a location is a list of names, directories stand at
any depth, and the pathname that a system would count there is never formed.

Main statements: an entry that is set is found there, and all other locations keep theirs
(`lookup_set_self`, `lookup_set_of_ne`).
-/

namespace DispatchLayer

/-- The names that lead from the top directory to an entry. -/
abbrev Location := List String

/-- Contents are compared byte by byte. -/
local instance decidableEqContent : DecidableEq ByteArray := ByteArray.instDecidableEq

/-- What stands at a location. -/
inductive Entry where
  | file (content : ByteArray)
  | directory
  /-- A symbolic link, with the pathname it stands for. -/
  | link (target : String)
  deriving DecidableEq

/-- Files, directories and links below a top directory. -/
structure FileTree where
  /-- The absolute pathname of the top directory. -/
  top : String
  entries : List (Location × Entry)
  deriving DecidableEq

namespace FileTree

/-- The tree that is only its top directory. -/
def empty (top : String) : FileTree := ⟨top, []⟩

/-- What stands at a location. The top directory is always there. -/
def lookup (t : FileTree) : Location → Option Entry
  | [] => some .directory
  | loc => t.entries.lookup loc

/-- A list of entries with the entry at a location replaced, or added at the end. -/
def setEntry (loc : Location) (e : Entry) : List (Location × Entry) → List (Location × Entry)
  | [] => [(loc, e)]
  | (other, old) :: rest =>
    if other = loc then (loc, e) :: rest else (other, old) :: setEntry loc e rest

/-- The tree with an entry put at a location. -/
def set (t : FileTree) (loc : Location) (e : Entry) : FileTree :=
  { t with entries := setEntry loc e t.entries }

/-- The tree without a location and everything below it. -/
def erase (t : FileTree) (loc : Location) : FileTree :=
  { t with entries := t.entries.filter fun p => !loc.isPrefixOf p.1 }

theorem lookup_setEntry_self (loc : Location) (e : Entry) (l : List (Location × Entry)) :
    (setEntry loc e l).lookup loc = some e := by
  induction l with
  | nil => simp [setEntry]
  | cons p rest ih =>
    obtain ⟨other, old⟩ := p
    by_cases h : other = loc
    · simp [setEntry, h]
    · have h' : (loc == other) = false := by simpa using fun e => h e.symm
      simp [setEntry, h, List.lookup_cons, h', ih]

theorem lookup_setEntry_of_ne {loc other : Location} (h : other ≠ loc) (e : Entry)
    (l : List (Location × Entry)) : (setEntry loc e l).lookup other = l.lookup other := by
  induction l with
  | nil =>
    have h' : (other == loc) = false := by simpa using h
    simp [setEntry, List.lookup_cons, h']
  | cons p rest ih =>
    obtain ⟨here, old⟩ := p
    by_cases hh : here = loc
    · subst hh
      have h' : (other == here) = false := by simpa using h
      simp [setEntry, List.lookup_cons, h']
    · by_cases ho : other = here
      · simp [setEntry, hh, ho]
      · have h' : (other == here) = false := by simpa using ho
        simp [setEntry, hh, List.lookup_cons, h', ih]

/-- An entry is found where it was put. -/
theorem lookup_set_self (t : FileTree) {loc : Location} (h : loc ≠ []) (e : Entry) :
    (t.set loc e).lookup loc = some e := by
  cases loc with
  | nil => exact absurd rfl h
  | cons a as => exact lookup_setEntry_self _ _ _

/-- Putting an entry at one location leaves all others alone. -/
theorem lookup_set_of_ne (t : FileTree) {loc other : Location} (h : other ≠ loc) (e : Entry) :
    (t.set loc e).lookup other = t.lookup other := by
  cases other with
  | nil => rfl
  | cons a as => exact lookup_setEntry_of_ne h e _

/-! ## Following pathnames -/

/-- Where a pathname leads. -/
inductive Place where
  /-- To an entry. -/
  | found (loc : Location)
  /-- To a name that its directory does not hold. -/
  | free (dir : Location) (name : String)
  deriving DecidableEq, Repr

/-- Where the names left of a pathname start: in the directory reached so far, or, for an absolute
pathname, in the top directory. Nothing is known outside the tree. -/
def startOf (t : FileTree) (here : Location) (p : Pathname) :
    Except FileError (Location × List String) :=
  if p.absolute then
    let above := (Pathname.ofText t.top).names
    if above.isPrefixOf p.names then .ok ([], p.names.drop above.length) else .error .notFound
  else .ok (here, p.names)

/-- Follow names from a directory. A link is handed on with the directory it stands in, the names of
its target and those left, and whether a directory is wanted in the end. With `creating`, a
pathname that ends in a name and a slash is refused. -/
def follow (t : FileTree) (creating : Bool)
    (onLink : Location → List String → Bool → Except FileError Place) :
    (here : Location) → (names : List String) → (wantsDirectory : Bool) → Except FileError Place
  | here, [], _ => .ok (.found here)
  | here, name :: rest, slash =>
    if name = "." then follow t creating onLink here rest slash
    else if name = ".." then follow t creating onLink here.dropLast rest slash
    else if creating && rest.isEmpty && slash then .error .isDirectory
    else if Pathname.isTooLong name then .error .nameTooLong
    else
      match t.lookup (here ++ [name]) with
      | none => if rest.isEmpty then .ok (.free here name) else .error .notFound
      | some (.file _) =>
        if rest.isEmpty && !slash then .ok (.found (here ++ [name])) else .error .notDirectory
      | some .directory => follow t creating onLink (here ++ [name]) rest slash
      | some (.link target) => do
        let p := Pathname.ofText target
        let (here, names) ← t.startOf here p
        onLink here (names ++ rest) (slash || rest.isEmpty && p.wantsDirectory)

/-- The number of links a pathname may lead through. -/
def maxLinks : Nat := 40

/-- Follow names from a directory through at most so many links. -/
def followLinks (t : FileTree) (creating : Bool) :
    Nat → Location → List String → Bool → Except FileError Place
  | 0 => t.follow creating fun _ _ _ => .error .tooManyLinks
  | n + 1 => t.follow creating (t.followLinks creating n)

/-- Where a pathname leads, from the top directory. -/
def place (t : FileTree) (creating : Bool) (text : String) : Except FileError Place :=
  match Pathname.textError? text with
  | some e => .error e
  | none => do
    let p := Pathname.ofText text
    let (here, names) ← t.startOf [] p
    t.followLinks creating maxLinks here names p.wantsDirectory

/-- The entry at a place. -/
def Place.entry? (t : FileTree) : Place → Option Entry
  | .found loc => t.lookup loc
  | .free _ _ => none

/-- The location a pathname leads to, free of links. -/
def canonicalize (t : FileTree) (text : String) : Except FileError Location := do
  match ← t.place false text with
  | .found loc => return loc
  | .free _ _ => throw .notFound

/-- Whether a directory stands at a location. -/
def isDirectory (t : FileTree) (loc : Location) : Bool := t.lookup loc == some .directory

/-- The absolute pathname of a location. -/
def pathText (t : FileTree) (loc : Location) : String :=
  loc.foldl (fun dir name => dir ++ "/" ++ name) t.top

/-! ## Reading and writing -/

/-- The content of the file at a place. -/
def contentAt (t : FileTree) (p : Place) : Except FileError ByteArray :=
  match p.entry? t with
  | some (.file content) => .ok content
  | some _ => .error .isDirectory
  | none => .error .notFound

/-- The text with these bytes. -/
def decode (content : ByteArray) : Except FileError String :=
  match String.fromUTF8? content with
  | some text => .ok text
  | none => .error .notText

/-- Whether a pathname is too long to be opened. -/
def openError? (text : String) : Option FileError :=
  if Pathname.maxTextBytes < text.utf8ByteSize && !text.toList.contains '\x00' then
    some .nameTooLong
  else none

/-- The text of the file that a pathname leads to. -/
def readText (t : FileTree) (text : String) : Except FileError String := do
  if let some e := openError? text then throw e
  decode (← t.contentAt (← t.place false text))

/-- Where an entry of a directory leads, given the directory's location. -/
def placeIn (t : FileTree) (dir : Location) (name : String) : Except FileError Place :=
  t.followLinks false maxLinks dir [name] false

/-- Whether an entry of a directory is a file or leads to one. -/
def isFileIn (t : FileTree) (dir : Location) (name : String) : Bool :=
  match t.placeIn dir name with
  | .ok p =>
    match p.entry? t with
    | some (.file _) => true
    | _ => false
  | .error _ => false

/-- The text of an entry of a directory. -/
def readTextIn (t : FileTree) (dir : Location) (name : String) : Except FileError String := do
  decode (← t.contentAt (← t.placeIn dir name))

/-- The location that writing to a pathname writes. -/
def destination (t : FileTree) (text : String) : Except FileError Location := do
  if let some e := openError? text then throw e
  match ← t.place true text with
  | .found loc => if t.isDirectory loc then throw .isDirectory else return loc
  | .free dir name => return dir ++ [name]

/-- Write a file: the one that the pathname leads to, or a new one where it leads. -/
def write (t : FileTree) (text : String) (content : ByteArray) : Except FileError FileTree := do
  return t.set (← t.destination text) (.file content)

/-- Write a file with this text. -/
def writeText (t : FileTree) (path text : String) : Except FileError FileTree :=
  t.write path text.toUTF8

end FileTree

end DispatchLayer
