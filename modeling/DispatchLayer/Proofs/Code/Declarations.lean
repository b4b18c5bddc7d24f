import DispatchLayer.Proofs.Code.Reader.Type
import DispatchLayer.Proofs.Code.TokenTree
import DispatchLayer.Proofs.Code.WellSpelled

/-!
# Declarations read off the tokens of a file

What a file declares can be read off its tokens with little knowledge of the language: an item ends
with a semicolon or with braces, a variant or a field with a comma. `declarations` is what is read of
the items of a file, one after the other, and nothing at all where one of them has another form. The
readers know nothing of how the tokens were made, and what stands in the body of a function does not
matter to them.

For spelled code there is one lemma for each form of item that generated code is made of, from which
the declarations of a file are put together (`declarations_spell`).
-/

namespace DispatchLayer.Code

open Token

/-! ## Readers -/

/-- A name outside of brackets. -/
def wordTree (name : String) : TokenTree := .leaf (.ident name)

/-- Whether an item, or a member of one, ends here. -/
def endsItem : TokenTree → Bool
  | .leaf (.punct ';' _) => true
  | .group .brace _ => true
  | _ => false

/-- Whether a variant or a field ends here. -/
def isComma : TokenTree → Bool
  | .leaf (.punct ',' _) => true
  | _ => false

/-- The trees behind outer attributes. -/
def skipAttributes : List TokenTree → List TokenTree
  | .leaf (.punct '#' _) :: .group .bracket _ :: us => skipAttributes us
  | us => us

/-- The trees behind the attributes of a file. -/
def skipFileAttributes : List TokenTree → List TokenTree
  | .leaf (.punct '#' _) :: .leaf (.punct '!' _) :: .group .bracket _ :: us => skipFileAttributes us
  | us => us

/-- The trees behind `pub`. -/
def skipPub : List TokenTree → List TokenTree
  | [] => []
  | u :: us => if u = wordTree "pub" then us else u :: us

/-- The trees outside of angle brackets, `depth` of which are open. -/
def outsideAngles : Nat → List TokenTree → List TokenTree
  | _, [] => []
  | depth, .leaf (.punct '<' _) :: us => outsideAngles (depth + 1) us
  | depth + 1, .leaf (.punct '>' _) :: us => outsideAngles depth us
  | 0, u :: us => u :: outsideAngles 0 us
  | depth + 1, _ :: us => outsideAngles (depth + 1) us

/-- The names of a path, two colons between neighbours. -/
def pathNames : List TokenTree → Option (List String)
  | [.leaf (.ident n)] => some [n]
  | .leaf (.ident n) :: .leaf (.punct ':' .joint) :: .leaf (.punct ':' .alone) :: us =>
    (pathNames us).map (n :: ·)
  | _ => none

/-- The names of a path that may begin with colons. -/
def readPath : List TokenTree → Option (List String)
  | .leaf (.punct ':' .joint) :: .leaf (.punct ':' .alone) :: us => pathNames us
  | us => pathNames us

/-- The names with which generic parameters begin, up to a closing angle bracket; `begins` tells
whether a parameter begins here. A lifetime begins with its mark. -/
def paramNames (begins : Bool) : List TokenTree → List String
  | [] => []
  | .leaf (.punct '>' _) :: _ => []
  | .leaf (.punct ',' _) :: us => paramNames true us
  | .leaf (.ident n) :: us => if begins then n :: paramNames false us else paramNames false us
  | _ :: us => paramNames false us

/-- The type parameters in front of a head. -/
def typeParams : List TokenTree → List String
  | .leaf (.punct '<' _) :: us => paramNames true us
  | _ => []

/-- What an item declares. Types and traits are given by the names of their paths. -/
inductive Declaration where
  | use
  | enum (name : String) (variants : List String)
  | tupleStruct (name : String)
  | struct (name : String) (fields : List (String × List String))
  | trait (name : String) (methods : List String)
  | implementation (params : List String) (trait? : Option (List String)) (self : List String)
    (methods : List String)
  deriving DecidableEq, Repr

/-- The name of a method. -/
def readMethod (us : List TokenTree) : Option String :=
  match skipPub (skipAttributes us) with
  | .leaf (.ident keyword) :: .leaf (.ident name) :: .group .paren _ :: _ =>
    if keyword = "fn" then some name else none
  | _ => none

/-- The name of a variant. -/
def readVariant (us : List TokenTree) : Option String :=
  match skipAttributes us with
  | .leaf (.ident name) :: _ => some name
  | _ => none

/-- The name of a field, and the names of its type without arguments. -/
def readField (us : List TokenTree) : Option (String × List String) :=
  match skipAttributes us with
  | .leaf (.ident name) :: .leaf (.punct ':' .alone) :: type =>
    (readPath (outsideAngles 0 (type.filter fun u => !isComma u))).map fun names => (name, names)
  | _ => none

/-- The trait of an implementation, if it is of one, and the type it is for. -/
def readHead (us : List TokenTree) : Option (Option (List String) × List String) :=
  let head := (outsideAngles 0 us).takeWhile fun u => u ≠ wordTree "where"
  match head.dropWhile fun u => u ≠ wordTree "for" with
  | [] => (readPath head).map fun self => (none, self)
  | _ :: self => do
    let path ← readPath (head.takeWhile fun u => u ≠ wordTree "for")
    let self ← readPath self
    return (some path, self)

/-- What stands in the brackets of one kind at the end. -/
def lastGroup? (d : Delimiter) (us : List TokenTree) : Option (List Token) :=
  match us.getLast? with
  | some (.group e inside) => if e = d then some inside else none
  | _ => none

/-- The names of the methods in the braces at the end. -/
def methodsOf? (us : List TokenTree) : Option (List String) :=
  (lastGroup? .brace us).bind (readParts endsItem readMethod)

/-- What an implementation declares, behind its first word. -/
def readImplementation (us : List TokenTree) : Option Declaration := do
  let (trait?, self) ← readHead us.dropLast
  let methods ← methodsOf? us
  return .implementation (typeParams us.dropLast) trait? self methods

/-- What an item with a name declares, behind this name. The fields of a struct stand in braces at its
end, or in parentheses before a semicolon. -/
def readNamed (keyword name : String) (us : List TokenTree) : Option Declaration :=
  if keyword = "enum" then
    ((lastGroup? .brace us).bind (readParts isComma readVariant)).map (.enum name)
  else if keyword = "struct" then
    ((lastGroup? .brace us).bind (readParts isComma readField)).map (.struct name) <|>
      (lastGroup? .paren us.dropLast).map fun _ => .tupleStruct name
  else if keyword = "trait" then (methodsOf? us).map (.trait name)
  else none

/-- What an item declares. -/
def readItem (us : List TokenTree) : Option Declaration :=
  match skipPub (skipAttributes us) with
  | .leaf (.ident keyword) :: us =>
    if keyword = "use" then some .use
    else if keyword = "impl" then readImplementation us
    else match us with
      | .leaf (.ident name) :: us => readNamed keyword name us
      | _ => none
  | _ => none

/-- The declarations of a file, in order. -/
def declarations (ts : List Token) : Option (List Declaration) :=
  (cutAfter endsItem (skipFileAttributes (trees ts))).mapM readItem

/-! ## Paths -/

/-- Whether a token is one of a path of names. -/
def isPathToken : Token → Bool
  | .ident _ => true
  | .punct ':' _ => true
  | _ => false

theorem isPathToken_pathUpTo {leading : Bool} {names : List String} {ts : List Token}
    (h : ts.all isPathToken = true) : (Reader.pathUpTo leading names ts).all isPathToken = true := by
  have hcolons : (colonsIf leading).all isPathToken = true := by cases leading <;> rfl
  have hnames : (names.flatMap fun n => Token.ident n :: colons).all isPathToken = true := by
    rw [List.all_flatMap]
    exact List.all_eq_true.2 fun _ _ => rfl
  unfold Reader.pathUpTo
  rw [List.all_append, List.all_append, hcolons, hnames, h]
  rfl

/-- Inside of angle brackets a path is passed over. -/
theorem outsideAngles_path {ts : List Token} (h : ts.all isPathToken = true) (depth : Nat)
    (us : List TokenTree) :
    outsideAngles (depth + 1) (ts.map .leaf ++ us) = outsideAngles (depth + 1) us := by
  induction ts with
  | nil => rfl
  | cons t ts ih =>
    rw [List.all_cons, Bool.and_eq_true] at h
    rw [← ih h.2]
    unfold isPathToken at h
    split at h
    · rfl
    · rfl
    · cases h.1

/-- A path ends no item. -/
theorem front_path {ts : List Token} (h : ts.all isPathToken = true) : Front endsItem ts (ts.map .leaf) := by
  refine .inline (List.all_eq_true.2 fun t ht => ?_)
  have htoken := List.all_eq_true.1 h t ht
  unfold isPathToken at htoken
  split at htoken
  · rfl
  · rfl
  · cases htoken

/-- A part that ends with braces. -/
theorem Front.readsAs_braces {α : Type} {read : List TokenTree → Option α} {a : α}
    {ts us : List Token} {front : List TokenTree} (hf : Front endsItem ts front)
    (hb : Balances us) (hr : read (front ++ [.group .brace us]) = some a) :
    ReadsAs endsItem read (ts ++ Token.grouped .brace us) a :=
  hf.readsAs (hb.grouped .brace) (trees_grouped .brace hb) rfl hr

/-! ## Attributes -/

namespace Attribute

/-- The tokens in the brackets of an attribute. -/
def inside : Attribute → List Token
  | .word _ path => path.spell
  | .list _ path d ts => path.spell ++ grouped d ts
  | .value _ path e => path.spell ++ mark '=' :: e.spell

theorem spell_eq (a : Attribute) :
    a.spell = mark '#' :: (if a.isInner then [mark '!'] else []) ++ grouped .bracket a.inside := by
  cases a <;> rfl

end Attribute

theorem balances_docInside (text : String) :
    Balances (Attribute.value false (PlainPath.single "doc") (.literal text)).inside := by
  have hinline : ∀ t ∈ spellLiteral text, isBracket t = false := by
    unfold spellLiteral
    split
    · simp [isBracket, mark]
    · split
      · simp [isBracket]
      · simp [isBracket]
  exact balances_of_inline (List.forall_mem_cons.2 ⟨rfl, List.forall_mem_cons.2 ⟨rfl, hinline⟩⟩)

theorem balances_deriveInside (traits : List String) :
    Balances (Attribute.derive traits).inside := by
  have hnames : ∀ t ∈ nameList traits, isBracket t = false := by
    fun_induction nameList traits with
    | case1 => simp
    | case2 n => simp [isBracket]
    | case3 n rest _ ih => simpa [isBracket, mark] using ih
  exact (balances_of_inline (List.forall_mem_singleton.2 rfl)).append
    ((balances_of_inline hnames).grouped .paren)

section Attributes

variable {α : Type} {ends : TokenTree → Bool} {read : List TokenTree → Option α} {a : α}
  {ts : List Token} {attrs : List Attribute}

/-- No part ends with an attribute, and the reader passes over attributes. -/
structure SkipsAttributes (ends : TokenTree → Bool) (read : List TokenTree → Option α) : Prop where
  mark : ends (.leaf (Token.mark '#')) = false
  bracket : ∀ inside, ends (.group .bracket inside) = false
  read_eq : ∀ inside us, read (.leaf (Token.mark '#') :: .group .bracket inside :: us) = read us

theorem skipsAttributes_item : SkipsAttributes endsItem readItem :=
  ⟨rfl, fun _ => rfl, fun _ _ => rfl⟩

theorem skipsAttributes_method : SkipsAttributes endsItem readMethod :=
  ⟨rfl, fun _ => rfl, fun _ _ => rfl⟩

theorem skipsAttributes_variant : SkipsAttributes isComma readVariant :=
  ⟨rfl, fun _ => rfl, fun _ _ => rfl⟩

theorem ReadsAs.behind_attribute {attr : Attribute} (h : ReadsAs ends read ts a)
    (hskip : SkipsAttributes ends read) (ho : attr.isInner = false) (hb : Balances attr.inside) :
    ReadsAs ends read (attr.spell ++ ts) a := by
  have hmark : Front ends [mark '#'] [.leaf (mark '#')] :=
    .inline (by simpa [isBracket, mark] using hskip.mark)
  have hspell : attr.spell = [mark '#'] ++ grouped .bracket attr.inside := by
    rw [attr.spell_eq, ho]
    rfl
  rw [hspell]
  exact h.behind (hmark.append (.grouped hskip.bracket hb)) (hskip.read_eq attr.inside)

/-- A part is read as before when outer attributes are put in front of it. -/
theorem ReadsAs.behind_attributes (h : ReadsAs ends read ts a) (hskip : SkipsAttributes ends read)
    (hb : ∀ attr ∈ attrs, Balances attr.inside) :
    ReadsAs ends read (spellAttributes false attrs ++ ts) a := by
  induction attrs with
  | nil => exact h
  | cons attr attrs ih =>
    obtain ⟨hattr, hattrs⟩ := List.forall_mem_cons.1 hb
    rw [spellAttributes, List.append_assoc]
    split
    · next ho => exact (ih hattrs).behind_attribute hskip ho hattr
    · exact ih hattrs

/-- What is read as an item does not begin like the attribute of a file. -/
theorem skipFileAttributes_of_readItem {us : List TokenTree} {d : Declaration}
    (h : readItem us = some d) (more : List TokenTree) :
    skipFileAttributes (us ++ more) = us ++ more := by
  unfold skipFileAttributes
  split
  · next heq =>
    -- An item has a word where the attribute of a file has its two marks.
    rcases us with _ | ⟨u, _ | ⟨v, us⟩⟩
    · cases h
    · cases heq
      cases h
    · obtain ⟨rfl, htail⟩ := List.cons.inj heq
      obtain ⟨rfl, -⟩ := List.cons.inj htail
      cases h
  · rfl

theorem skipFileAttributes_attributes (ha : ∀ a ∈ attrs, Balances a.inside)
    (hts : skipFileAttributes (trees ts) = trees ts) :
    skipFileAttributes (trees (spellAttributes true attrs ++ ts)) = trees ts := by
  induction attrs with
  | nil => exact hts
  | cons a attrs ih =>
    obtain ⟨hb, hrest⟩ := List.forall_mem_cons.1 ha
    rw [spellAttributes, List.append_assoc]
    split
    · next hi =>
      rw [a.spell_eq, hi]
      show skipFileAttributes (.leaf (mark '#') :: .leaf (mark '!') ::
        trees (grouped .bracket a.inside ++ (spellAttributes true attrs ++ ts))) = _
      rw [trees_append (hb.grouped .bracket), trees_grouped .bracket hb]
      exact ih hrest
    · exact ih hrest

/-- **The declarations of a file** are what is read of its items. -/
theorem declarations_spell {items : List Item} {ds : List Declaration} {interpreter : Option String}
    (h : AllRead endsItem readItem Item.spell items ds) (ha : ∀ a ∈ attrs, Balances a.inside) :
    declarations (SourceFile.mk interpreter attrs items).spell = some ds := by
  have hitems : readParts endsItem readItem (spellItems items) = some ds := by
    rw [spellItems_eq_flatMap]
    exact readParts_flatMap h
  have hstart : skipFileAttributes (trees (spellItems items)) = trees (spellItems items) := by
    cases h with
    | nil => rfl
    | cons hi _ =>
      rw [spellItems, trees_append hi.balances]
      exact skipFileAttributes_of_readItem hi.read_eq _
  unfold declarations SourceFile.spell
  rw [skipFileAttributes_attributes ha hstart]
  exact hitems

end Attributes

/-! ## The spelling of items -/

section Spelling

variable {attrs : List Attribute}

/-- Outer attributes do not stand inside of what they are about. -/
theorem spellAttributes_of_outer (h : ∀ a ∈ attrs, a.isInner = false) :
    spellAttributes true attrs = [] := by
  induction attrs with
  | nil => rfl
  | cons a attrs ih =>
    obtain ⟨ho, hrest⟩ := List.forall_mem_cons.1 h
    rw [spellAttributes, ih hrest, ho]
    rfl

theorem spell_enum (attrs : List Attribute) (name : String) (generics : Generics)
    (variants : List Variant) :
    (Item.enum attrs .pub name generics variants).spell =
      spellAttributes false attrs ++ (["pub", "enum", name].map Token.ident ++
        (generics.spellParams ++ generics.spellWhere ++ grouped .brace (spellVariants variants))) := by
  show spellAttributes false attrs ++ Visibility.pub.spell ++ _ ++ _ ++ _ = _
  simp [Visibility.spell]

theorem spell_variant (attrs : List Attribute) (name : String) (fields : Fields) :
    spellVariants [.mk attrs name fields none] =
      spellAttributes false attrs ++ ([.ident name] ++ fields.spell ++ [mark ',']) := by
  show spellAttributes false attrs ++ _ ++ [] ++ [mark ','] = _
  simp

theorem spell_struct (attrs : List Attribute) (name : String) (generics : Generics)
    (fields : List Field) :
    (Item.struct attrs .pub name generics (.named fields)).spell =
      spellAttributes false attrs ++ (["pub", "struct", name].map Token.ident ++
        (generics.spellParams ++ generics.spellWhere ++
          grouped .brace (spellNamedFields fields))) := by
  show spellAttributes false attrs ++ Visibility.pub.spell ++ _ ++ (_ ++ _) = _
  simp [Visibility.spell]

theorem spell_tupleStruct {name : String} {generics : Generics} {fields : List Field}
    (hw : generics.spellWhere = []) :
    (Item.struct attrs .pub name generics (.tuple fields)).spell =
      spellAttributes false attrs ++ (["pub", "struct", name].map Token.ident ++
        (generics.spellParams ++ grouped .paren (commaSeparated (spellFields fields)) ++
          [mark ';'])) := by
  show spellAttributes false attrs ++ Visibility.pub.spell ++ _ ++ (_ ++ _ ++ _) = _
  simp [Visibility.spell, hw]

theorem spell_trait {name : String} {items : List Item} (ho : ∀ a ∈ attrs, a.isInner = false) :
    (Item.trait attrs .pub [] name Generics.empty [] items).spell =
      spellAttributes false attrs ++ (["pub", "trait", name].map Token.ident ++
        ([] ++ grouped .brace (spellItems items))) := by
  show spellAttributes false attrs ++ Visibility.pub.spell ++ [] ++ _ ++ _ ++ _ ++
    grouped .brace (spellAttributes true attrs ++ spellItems items) = _
  rw [spellAttributes_of_outer ho]
  simp [Visibility.spell]
  rfl

theorem spell_ownImplementation (generics : Generics) (self : Ty) (items : List Item) :
    (Item.implementation generics none self items).spell = ["impl"].map Token.ident ++
      (generics.spellParams ++ (self.spell ++ generics.spellWhere) ++
        grouped .brace (spellItems items)) := by
  show [] ++ [] ++ Token.ident "impl" :: _ ++ [] ++ _ ++ _ ++ grouped .brace ([] ++ _) = _
  simp

theorem spell_traitImplementation (generics : Generics) (p : Path) (self : Ty)
    (items : List Item) :
    (Item.implementation generics (some p) self items).spell =
      ["impl"].map Token.ident ++ (generics.spellParams ++
        (p.spell ++ Token.ident "for" :: (self.spell ++ generics.spellWhere)) ++
          grouped .brace (spellItems items)) := by
  show [] ++ [] ++ Token.ident "impl" :: _ ++ ([] ++ _ ++ _) ++ _ ++ _ ++
    grouped .brace ([] ++ _) = _
  simp

theorem spell_signature (name : String) (params : List FnParam) (output : Option Ty) :
    (Signature.plain name params output).spell = ["fn", name].map Token.ident ++
      (grouped .paren (commaSeparated (spellFnParams params)) ++ spellOutput output) := by
  show [] ++ [] ++ Token.ident "fn" :: Token.ident name :: [] ++ _ ++ _ ++ [] = _
  simp

theorem spell_function (attrs : List Attribute) (vis : Visibility) (name : String)
    (params : List FnParam) (output : Option Ty) (body : List Stmt) :
    (Item.function attrs vis (Signature.plain name params output) body).spell =
      spellAttributes false attrs ++ (vis.spell ++ (Signature.plain name params output).spell ++
        grouped .brace (spellAttributes true attrs ++ spellStmts body)) := by
  show spellAttributes false attrs ++ vis.spell ++ [] ++ _ ++ _ = _
  simp

theorem spell_fnHead (attrs : List Attribute) (name : String) (params : List FnParam)
    (output : Option Ty) :
    (Item.fnHead attrs .inherited (Signature.plain name params output)).spell =
      spellAttributes false attrs ++ (Visibility.inherited.spell ++
        (Signature.plain name params output).spell ++ [mark ';']) := by
  show spellAttributes false attrs ++ Visibility.inherited.spell ++ _ ++ [mark ';'] = _
  simp

end Spelling

/-! ## Items and their members -/

section Items

variable {attrs : List Attribute} {name : String} {generics : Generics} {items : List Item}

theorem skipPub_pub (us : List TokenTree) : skipPub (wordTree "pub" :: us) = us := by
  rw [skipPub, if_pos rfl]

theorem skipPub_word {word : String} (h : word ≠ "pub") (us : List TokenTree) :
    skipPub (wordTree word :: us) = wordTree word :: us := by
  rw [skipPub, if_neg (by simp [wordTree, h])]

theorem lastGroup?_concat (us : List TokenTree) (d : Delimiter) (inside : List Token) :
    lastGroup? d (us ++ [.group d inside]) = some inside := by
  unfold lastGroup?
  rw [List.getLast?_concat]
  exact if_pos rfl

theorem lastGroup?_of_mark (us : List TokenTree) (d : Delimiter) (c : Char) :
    lastGroup? d (us ++ [.leaf (mark c)]) = none := by
  unfold lastGroup?
  rw [List.getLast?_concat]

theorem methodsOf?_concat {methods : List String} (us : List TokenTree)
    (h : AllRead endsItem readMethod Item.spell items methods) :
    methodsOf? (us ++ [.group .brace (spellItems items)]) = some methods := by
  unfold methodsOf?
  rw [lastGroup?_concat, spellItems_eq_flatMap]
  exact readParts_flatMap h

/-- The trees of a word are no attribute. -/
theorem skipAttributes_word (word : String) (us : List TokenTree) :
    skipAttributes (wordTree word :: us) = wordTree word :: us := rfl

theorem readItem_named {keyword : String} (us : List TokenTree) (hu : keyword ≠ "use")
    (hi : keyword ≠ "impl") :
    readItem (wordTree "pub" :: wordTree keyword :: wordTree name :: us) =
      readNamed keyword name us := by
  unfold readItem
  rw [skipAttributes_word, skipPub_pub]
  simp [wordTree, hu, hi]

theorem readItem_impl (us : List TokenTree) :
    readItem (wordTree "impl" :: us) = readImplementation us := by
  unfold readItem
  rw [skipAttributes_word, skipPub_word (by decide)]
  simp [wordTree]

theorem readImplementation_concat {us : List TokenTree} {trait? : Option (List String)}
    {self methods : List String} (hh : readHead us = some (trait?, self))
    (hm : AllRead endsItem readMethod Item.spell items methods) :
    readImplementation (us ++ [.group .brace (spellItems items)]) =
      some (.implementation (typeParams us) trait? self methods) := by
  unfold readImplementation
  rw [List.dropLast_concat, hh, methodsOf?_concat us hm]
  rfl

/-- Words in front of a part. -/
theorem front_words (words : List String) :
    Front endsItem (words.map Token.ident) (words.map wordTree) := by
  have hw : Front endsItem (words.map Token.ident) ((words.map Token.ident).map .leaf) :=
    .inline (List.all_eq_true.2 (List.forall_mem_map.2 fun _ _ => rfl))
  rwa [List.map_map] at hw

/-- An item with a name is read behind this name. -/
theorem ReadsAs.named {keyword : String} {ts : List Token} {d : Declaration}
    (h : ReadsAs endsItem (readNamed keyword name) ts d) (hu : keyword ≠ "use")
    (hi : keyword ≠ "impl") (ha : ∀ a ∈ attrs, Balances a.inside) :
    ReadsAs endsItem readItem
      (spellAttributes false attrs ++ (["pub", keyword, name].map Token.ident ++ ts)) d :=
  (h.behind (front_words ["pub", keyword, name]) fun more =>
    readItem_named more hu hi).behind_attributes skipsAttributes_item ha

theorem readsAs_enum {variants : List Variant} {names : List String} {gs : List TokenTree}
    (ha : ∀ a ∈ attrs, Balances a.inside)
    (hg : Front endsItem (generics.spellParams ++ generics.spellWhere) gs)
    (hv : AllRead isComma readVariant (fun v => spellVariants [v]) variants names) :
    ReadsAs endsItem readItem (Item.enum attrs .pub name generics variants).spell
      (.enum name names) := by
  rw [spell_enum, spellVariants_eq_flatMap]
  refine (hg.readsAs_braces hv.balances ?_).named (by decide) (by decide) ha
  unfold readNamed
  rw [if_pos rfl, lastGroup?_concat, Option.bind_some, readParts_flatMap hv]
  rfl

theorem readsAs_struct {fields : List Field} {named : List (String × List String)}
    {gs : List TokenTree} (ha : ∀ a ∈ attrs, Balances a.inside)
    (hg : Front endsItem (generics.spellParams ++ generics.spellWhere) gs)
    (hf : AllRead isComma readField (fun f => f.spell ++ [mark ',']) fields named) :
    ReadsAs endsItem readItem (Item.struct attrs .pub name generics (.named fields)).spell
      (.struct name named) := by
  rw [spell_struct, spellNamedFields_eq_flatMap]
  refine (hg.readsAs_braces hf.balances ?_).named (by decide) (by decide) ha
  unfold readNamed
  rw [if_neg (by decide), if_pos rfl, lastGroup?_concat, Option.bind_some, readParts_flatMap hf]
  rfl

theorem readsAs_tupleStruct {fields : List Field} {gs : List TokenTree}
    (ha : ∀ a ∈ attrs, Balances a.inside) (hg : Front endsItem generics.spellParams gs)
    (hw : generics.spellWhere = []) (hf : Balances (commaSeparated (spellFields fields))) :
    ReadsAs endsItem readItem (Item.struct attrs .pub name generics (.tuple fields)).spell
      (.tupleStruct name) := by
  rw [spell_tupleStruct hw]
  have hfront := hg.append (.grouped (d := .paren) (fun _ => rfl) hf)
  refine (hfront.readsAs_mark rfl ?_).named (by decide) (by decide) ha
  unfold readNamed
  rw [if_neg (by decide), if_pos rfl, lastGroup?_of_mark, List.dropLast_concat, lastGroup?_concat]
  rfl

theorem readsAs_trait {methods : List String} (ha : ∀ a ∈ attrs, Balances a.inside)
    (ho : ∀ a ∈ attrs, a.isInner = false)
    (hm : AllRead endsItem readMethod Item.spell items methods) :
    ReadsAs endsItem readItem (Item.trait attrs .pub [] name Generics.empty [] items).spell
      (.trait name methods) := by
  have hb : Balances (spellItems items) := by
    rw [spellItems_eq_flatMap]
    exact hm.balances
  have hnothing : Front endsItem [] [] := .inline rfl
  rw [spell_trait ho]
  refine (hnothing.readsAs_braces hb ?_).named (by decide) (by decide) ha
  unfold readNamed
  rw [if_neg (by decide), if_neg (by decide), if_pos rfl]
  exact congrArg (Option.map _) (methodsOf?_concat [] hm)

/-- The head of an implementation, and the methods in its braces. -/
theorem readsAs_implHead {head : List Token} {us : List TokenTree} {trait? : Option (List String)}
    {params self methods : List String} (hh : Front endsItem head us)
    (hp : typeParams us = params) (hr : readHead us = some (trait?, self))
    (hm : AllRead endsItem readMethod Item.spell items methods) :
    ReadsAs endsItem readItem
      (["impl"].map Token.ident ++ (head ++ grouped .brace (spellItems items)))
      (.implementation params trait? self methods) := by
  have hb : Balances (spellItems items) := by
    rw [spellItems_eq_flatMap]
    exact hm.balances
  rw [← hp]
  exact (hh.readsAs_braces hb (readImplementation_concat hr hm)).behind (front_words ["impl"])
    readItem_impl

theorem readsAs_ownImplementation {self : Ty} {us : List TokenTree}
    {params path methods : List String}
    (hh : Front endsItem (generics.spellParams ++ (self.spell ++ generics.spellWhere)) us)
    (hp : typeParams us = params) (hr : readHead us = some (none, path))
    (hm : AllRead endsItem readMethod Item.spell items methods) :
    ReadsAs endsItem readItem (Item.implementation generics none self items).spell
      (.implementation params none path methods) := by
  rw [spell_ownImplementation]
  exact readsAs_implHead hh hp hr hm

theorem readsAs_traitImplementation {p : Path} {self : Ty} {us : List TokenTree}
    {params traitPath path methods : List String}
    (hh : Front endsItem (generics.spellParams ++
      (p.spell ++ Token.ident "for" :: (self.spell ++ generics.spellWhere))) us)
    (hp : typeParams us = params) (hr : readHead us = some (some traitPath, path))
    (hm : AllRead endsItem readMethod Item.spell items methods) :
    ReadsAs endsItem readItem (Item.implementation generics (some p) self items).spell
      (.implementation params (some traitPath) path methods) := by
  rw [spell_traitImplementation]
  exact readsAs_implHead hh hp hr hm

theorem readsAs_variant {fields : Fields} {us : List TokenTree}
    (ha : ∀ a ∈ attrs, Balances a.inside) (hf : Front isComma fields.spell us) :
    ReadsAs isComma readVariant (spellVariants [.mk attrs name fields none]) name := by
  have hname : Front isComma [.ident name] [wordTree name] := .inline rfl
  have hpart : ReadsAs isComma readVariant ([.ident name] ++ fields.spell ++ [mark ',']) name :=
    (hname.append hf).readsAs_mark rfl rfl
  rw [spell_variant]
  exact hpart.behind_attributes skipsAttributes_variant ha

theorem balances_attributes {inner : Bool} (ha : ∀ a ∈ attrs, Balances a.inside) :
    Balances (spellAttributes inner attrs) := by
  have hmarks : ∀ b : Bool, Balances (mark '#' :: if b then [mark '!'] else []) := fun b =>
    balances_of_inline (by cases b <;> simp [isBracket, mark])
  induction attrs with
  | nil => exact .nil
  | cons a attrs ih =>
    obtain ⟨hb, hrest⟩ := List.forall_mem_cons.1 ha
    rw [spellAttributes]
    refine Balances.append ?_ (ih hrest)
    split
    · rw [a.spell_eq]
      exact (hmarks a.isInner).append (hb.grouped .bracket)
    · exact .nil

theorem readMethod_fn (inside : List Token) (us : List TokenTree) :
    readMethod (wordTree "fn" :: wordTree name :: .group .paren inside :: us) = some name := by
  unfold readMethod
  rw [skipAttributes_word, skipPub_word (by decide)]
  simp [wordTree]

theorem readMethod_pubFn (inside : List Token) (us : List TokenTree) :
    readMethod (wordTree "pub" :: wordTree "fn" :: wordTree name :: .group .paren inside :: us) =
      some name := by
  unfold readMethod
  rw [skipAttributes_word, skipPub_pub]
  simp [wordTree]

section Methods

variable {vis : Visibility} {params : List FnParam} {output : Option Ty} {out : List TokenTree}

theorem front_signature (name : String) (hp : Balances (commaSeparated (spellFnParams params)))
    (ho : Front endsItem (spellOutput output) out) :
    Front endsItem (Signature.plain name params output).spell
      (wordTree "fn" :: wordTree name :: .group .paren (commaSeparated (spellFnParams params)) ::
        out) := by
  rw [spell_signature]
  exact (front_words ["fn", name]).append ((Front.grouped (d := .paren) (fun _ => rfl) hp).append ho)

/-- The head of a method is read, whatever the method ends with. -/
theorem front_method (vis : Visibility) (name : String) (hv : vis = .pub ∨ vis = .inherited)
    (hp : Balances (commaSeparated (spellFnParams params)))
    (ho : Front endsItem (spellOutput output) out) :
    ∃ us, Front endsItem (vis.spell ++ (Signature.plain name params output).spell) us ∧
      ∀ last, readMethod (us ++ [last]) = some name := by
  have hhead := front_signature name hp ho
  rcases hv with rfl | rfl
  · exact ⟨_, (front_words ["pub"]).append hhead, fun last => readMethod_pubFn _ (out ++ [last])⟩
  · exact ⟨_, (front_words []).append hhead, fun last => readMethod_fn _ (out ++ [last])⟩

theorem readsAs_function (name : String) {body : List Stmt} (ha : ∀ a ∈ attrs, Balances a.inside)
    (hv : vis = .pub ∨ vis = .inherited) (hp : Balances (commaSeparated (spellFnParams params)))
    (ho : Front endsItem (spellOutput output) out) (hb : Balances (spellStmts body)) :
    ReadsAs endsItem readMethod
      (Item.function attrs vis (Signature.plain name params output) body).spell name := by
  obtain ⟨us, hhead, hread⟩ := front_method vis name hv hp ho
  rw [spell_function]
  exact (hhead.readsAs_braces ((balances_attributes ha).append hb) (hread _)).behind_attributes
    skipsAttributes_method ha

theorem readsAs_fnHead (name : String) (ha : ∀ a ∈ attrs, Balances a.inside)
    (hp : Balances (commaSeparated (spellFnParams params)))
    (ho : Front endsItem (spellOutput output) out) :
    ReadsAs endsItem readMethod
      (Item.fnHead attrs .inherited (Signature.plain name params output)).spell name := by
  obtain ⟨us, hhead, hread⟩ := front_method .inherited name (Or.inr rfl) hp ho
  rw [spell_fnHead]
  exact (hhead.readsAs_mark rfl (hread _)).behind_attributes skipsAttributes_method ha

end Methods

end Items

end DispatchLayer.Code
