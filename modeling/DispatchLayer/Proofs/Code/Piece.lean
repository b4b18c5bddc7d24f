import DispatchLayer.Proofs.Code.Declarations

/-!
# Pieces of code and their forms

Code is a sequence of pieces: items, statements, fields or arms. A piece is a line of tokens,
perhaps with braces behind it (`Piece`); attributes in front of it are passed over. A form is a text
of source in which the mark `$` leaves a place open. A line is of the form if its tokens are those
of the text, with other tokens in the open places, and these are what is read of it (`captures`). So
the forms that a reader looks for can be compared with the source, and the readers know nothing of
how code is made.

A spelled item is one piece, whatever stands in its braces (`isPiece_block`, `isPiece_line`), and
pieces that stand one after the other are read one after the other.
-/

namespace DispatchLayer.Code

open Token

/-! ## Forms -/

/-- Whether a token of a form leaves a place open. -/
def isPlace : Token → Bool
  | .punct '$' _ => true
  | _ => false

/-- What stands in the open places of a form, if the tokens are otherwise those of the form. What
stands in a place ends before the token that the form has next. -/
def captures : List Token → List Token → Option (List (List Token))
  | [], ts => if ts.isEmpty then some [] else none
  | f :: form, ts =>
    if isPlace f then
      (captures form (ts.dropWhile fun t => form.head? ≠ some t)).map
        (ts.takeWhile (fun t => form.head? ≠ some t) :: ·)
    else match ts with
      | [] => none
      | t :: ts => if t = f then captures form ts else none

/-- What stands in the open places of a form that is written as a text. -/
def capturesOf (form : String) (ts : List Token) : Option (List (List Token)) :=
  (Token.ofText? form).bind fun form => captures form ts

theorem capturesOf_eq {form : String} {tokens : List Token} (h : Token.ofText? form = some tokens)
    (ts : List Token) : capturesOf form ts = captures tokens ts := by
  unfold capturesOf
  rw [h]
  rfl

/-- An open place takes everything in front of the next token of the form. -/
theorem captures_place {place : Token} {form run ts : List Token} (hp : isPlace place = true)
    (hrun : ∀ t ∈ run, form.head? ≠ some t) (hts : ts.head? = form.head?) :
    captures (place :: form) (run ++ ts) = (captures form ts).map (run :: ·) := by
  have hall : ∀ t ∈ run, decide (form.head? ≠ some t) = true := by simpa using hrun
  have hstop : ts.takeWhile (fun t => form.head? ≠ some t) = [] ∧
      ts.dropWhile (fun t => form.head? ≠ some t) = ts := by
    cases ts with
    | nil => exact ⟨rfl, rfl⟩
    | cons t ts =>
      have ht : form.head? = some t := hts.symm
      simp [ht]
  conv_lhs => unfold captures
  rw [if_pos hp, List.takeWhile_append_of_pos hall, List.dropWhile_append_of_pos hall, hstop.1,
    hstop.2, List.append_nil]

/-- A form with tokens in its open places. -/
def fill : List Token → List (List Token) → List Token
  | [], _ => []
  | f :: form, places =>
    if isPlace f then places.headD [] ++ fill form places.tail else f :: fill form places

/-- There is something for each open place, and each place ends where it should. -/
def fits : List Token → List (List Token) → Bool
  | [], places => places.isEmpty
  | f :: form, places =>
    if isPlace f then
      match places with
      | [] => false
      | run :: places =>
        run.all (fun t => form.head? ≠ some t) && ((fill form places).head? = form.head? : Bool) &&
          fits form places
    else fits form places

/-- **What a form is filled with is found** in its places. -/
theorem captures_fill {form : List Token} {places : List (List Token)}
    (h : fits form places = true) : captures form (fill form places) = some places := by
  induction form generalizing places with
  | nil =>
    rw [List.isEmpty_iff.1 h]
    rfl
  | cons f form ih =>
    unfold fits at h
    unfold fill
    split at h
    · next hf =>
      rw [if_pos hf]
      cases places with
      | nil => cases h
      | cons run places =>
        rw [Bool.and_eq_true, Bool.and_eq_true, List.all_eq_true, decide_eq_true_eq] at h
        obtain ⟨⟨hrun, hnext⟩, hfits⟩ := h
        have hne : ∀ t ∈ run, form.head? ≠ some t := fun t ht => of_decide_eq_true (hrun t ht)
        exact (captures_place hf hne hnext).trans (congrArg _ (ih hfits))
    · next hf =>
      rw [if_neg hf]
      unfold captures
      rw [if_neg hf]
      exact (if_pos rfl).trans (ih h)

/-- **What is found in the places is all** that the form does not say. -/
theorem eq_fill_of_captures {form ts : List Token} {places : List (List Token)}
    (h : captures form ts = some places) : ts = fill form places := by
  induction form generalizing ts places with
  | nil =>
    unfold captures at h
    split at h
    · next hts => exact List.isEmpty_iff.1 hts
    · cases h
  | cons f form ih =>
    unfold captures at h
    unfold fill
    split at h
    · next hf =>
      obtain ⟨rest, hrest, rfl⟩ := Option.map_eq_some_iff.1 h
      rw [if_pos hf, List.tail_cons, ← ih hrest]
      exact List.takeWhile_append_dropWhile.symm
    · next hf =>
      rw [if_neg hf]
      cases ts with
      | nil => cases h
      | cons t ts =>
        dsimp only at h
        split at h
        · next ht => rw [ht, ih h]
        · cases h

/-- A token that the form does not have keeps the rest from mattering. -/
theorem captures_cons_eq_none {f t : Token} {form ts : List Token} (hf : isPlace f = false)
    (h : captures form ts = none) : captures (f :: form) (t :: ts) = none := by
  unfold captures
  rw [if_neg (Bool.eq_false_iff.1 hf)]
  split
  · rfl
  · next hts =>
    cases hts
    split
    · exact h
    · rfl

/-! ## Pieces -/

/-- A line of tokens, and the tokens in the braces behind it, if it has such. -/
structure Piece where
  line : List Token
  braces : Option (List Token)

/-- What stands in the open places of a piece without braces. -/
def Piece.line? (form : String) (p : Piece) : Option (List (List Token)) :=
  match p.braces with
  | none => capturesOf form p.line
  | some _ => none

/-- What stands in the open places of a piece with braces, and what stands in the braces. -/
def Piece.block? (form : String) (p : Piece) : Option (List (List Token) × List Token) :=
  match p.braces with
  | none => none
  | some inside => (capturesOf form p.line).map fun places => (places, inside)

section Forms

variable {form : String} {tokens ts inside : List Token}

theorem Piece.block?_eq (h : Token.ofText? form = some tokens) (inside : List Token) :
    Piece.block? form ⟨ts, some inside⟩ =
      (captures tokens ts).map fun places => (places, inside) :=
  congrArg (Option.map _) (capturesOf_eq h ts)

theorem capturesOf_fill (h : Token.ofText? form = some tokens) (places : List (List Token))
    (hf : fits tokens places = true) : capturesOf form (fill tokens places) = some places :=
  (capturesOf_eq h _).trans (captures_fill hf)

theorem eq_fill_of_capturesOf {places : List (List Token)} (h : Token.ofText? form = some tokens)
    (hc : capturesOf form ts = some places) : ts = fill tokens places :=
  eq_fill_of_captures ((capturesOf_eq h ts).symm.trans hc)

theorem Piece.line?_fill (h : Token.ofText? form = some tokens) (places : List (List Token))
    (hf : fits tokens places = true) :
    Piece.line? form ⟨fill tokens places, none⟩ = some places :=
  capturesOf_fill h places hf

theorem Piece.block?_fill (h : Token.ofText? form = some tokens) (places : List (List Token))
    (hf : fits tokens places = true) :
    Piece.block? form ⟨fill tokens places, some inside⟩ = some (places, inside) :=
  congrArg (Option.map _) (capturesOf_fill h places hf)

/-- A piece of another form. -/
theorem Piece.block?_eq_none {p : Piece} (h : Token.ofText? form = some tokens)
    (hc : captures tokens p.line = none) : p.block? form = none := by
  obtain ⟨line, braces⟩ := p
  cases braces with
  | none => rfl
  | some inside => rw [Piece.block?_eq h, hc, Option.map_none]

/-- A reader that begins with another form finds nothing. -/
theorem Piece.bind_block?_eq_none {α : Type} {p : Piece}
    {r : List (List Token) × List Token → Option α} (h : Token.ofText? form = some tokens)
    (hc : captures tokens p.line = none) : (p.block? form >>= r) = none := by
  rw [Piece.block?_eq_none h hc]
  rfl

end Forms

/-- The trees behind attributes, those of a file among them. -/
def skipAllAttributes : List TokenTree → List TokenTree
  | .leaf (.punct '#' _) :: .group .bracket _ :: us => skipAllAttributes us
  | .leaf (.punct '#' _) :: .leaf (.punct '!' _) :: .group .bracket _ :: us => skipAllAttributes us
  | us => us

/-- The piece that the trees are. A comma or a semicolon at the end does not belong to the line. -/
def toPiece (us : List TokenTree) : Piece :=
  let us := skipAllAttributes us
  let front := us.dropLast.flatMap TokenTree.spell
  match us.getLast? with
  | some (.group .brace inside) => ⟨front, some inside⟩
  | some (.leaf (.punct ',' _)) => ⟨front, none⟩
  | some (.leaf (.punct ';' _)) => ⟨front, none⟩
  | _ => ⟨us.flatMap TokenTree.spell, none⟩

/-- The pieces of a sequence of tokens, each up to a tree that ends one. -/
def pieces (ends : TokenTree → Bool) (ts : List Token) : List Piece :=
  (cutAfter ends (trees ts)).map toPiece

/-- Whether an arm ends here. -/
def endsArm (u : TokenTree) : Bool := isComma u || endsItem u

/-- The items of a file, of a trait or of an implementation, or the statements of a function. -/
def itemPieces (ts : List Token) : List Piece := pieces endsItem ts

/-- The variants or the fields in braces. -/
def fieldPieces (ts : List Token) : List Piece := pieces isComma ts

/-- The arms of a distinction. -/
def armPieces (ts : List Token) : List Piece := pieces endsArm ts

/-! ## What is read as a piece -/

section Reading

variable {ends : TokenTree → Bool} {ts line inside : List Token} {us : List TokenTree} {p : Piece}

/-- The tokens are one piece, which is read as this. -/
abbrev PieceReads {α : Type} (ends : TokenTree → Bool) (r : Piece → Option α) (ts : List Token)
    (a : α) : Prop :=
  ReadsAs ends (fun us => r (toPiece us)) ts a

/-- The members of a list are spelled as pieces that are read as the members of another one. -/
abbrev AllPieces {α β : Type} (ends : TokenTree → Bool) (r : Piece → Option α)
    (spell : β → List Token) (bs : List β) (as : List α) : Prop :=
  AllRead ends (fun us => r (toPiece us)) spell bs as

/-- The tokens are one piece, namely this. -/
abbrev IsPiece (ends : TokenTree → Bool) (ts : List Token) (p : Piece) : Prop :=
  PieceReads ends some ts p

/-- Braces are the end of a piece. -/
theorem isPiece_block (hl : Front ends line us) (hb : Balances inside)
    (hs : ∀ more, skipAllAttributes (us ++ more) = us ++ more)
    (he : ends (.group .brace inside) = true) :
    IsPiece ends (line ++ grouped .brace inside) ⟨line, some inside⟩ := by
  refine hl.readsAs (hb.grouped .brace) (trees_grouped .brace hb) he ?_
  unfold toPiece
  simp only [hs, List.getLast?_concat, List.dropLast_concat, hl.spell_eq]

/-- A comma or a semicolon is one, too. -/
theorem isPiece_line {c : Char} (hc : c = ',' ∨ c = ';') (hl : Front ends line us)
    (hs : ∀ more, skipAllAttributes (us ++ more) = us ++ more)
    (he : ends (.leaf (mark c)) = true) : IsPiece ends (line ++ [mark c]) ⟨line, none⟩ := by
  refine hl.readsAs_mark he ?_
  unfold toPiece
  rcases hc with rfl | rfl
  all_goals simp only [hs, mark, List.getLast?_concat, List.dropLast_concat, hl.spell_eq]

theorem skipsAttributes_piece (hm : ends (.leaf (mark '#')) = false)
    (hb : ∀ inside, ends (.group .bracket inside) = false) :
    SkipsAttributes ends fun us => some (toPiece us) :=
  ⟨hm, hb, fun _ _ => rfl⟩

/-- The attribute of a file belongs to the first item. -/
theorem behind_fileAttribute {α : Type} {r : Piece → Option α} {a : α} {attr : Attribute}
    (h : PieceReads endsItem r ts a) (hi : attr.isInner = true) (hb : Balances attr.inside) :
    PieceReads endsItem r (attr.spell ++ ts) a := by
  have hmarks : Front endsItem [mark '#', mark '!'] [.leaf (mark '#'), .leaf (mark '!')] :=
    .inline rfl
  have hspell : attr.spell = [mark '#', mark '!'] ++ grouped .bracket attr.inside := by
    rw [attr.spell_eq, hi]
    rfl
  rw [hspell]
  exact h.behind (hmarks.append (.grouped (fun _ => rfl) hb)) fun _ => rfl

/-- A piece is read, if it stands for itself. -/
theorem IsPiece.reads {α : Type} {r : Piece → Option α} {a : α} (h : IsPiece ends ts p)
    (hr : r p = some a) : PieceReads ends r ts a := by
  have hp : toPiece (trees ts) = p := Option.some.inj h.read_eq
  exact ⟨h.balances, h.one_part, (congrArg r hp).trans hr⟩

section Pieces

variable {α β : Type} {r : Piece → Option α} {spell : β → List Token} {bs : List β} {as : List α}

theorem mapM_pieces (r : Piece → Option α) (ends : TokenTree → Bool) (ts : List Token) :
    (pieces ends ts).mapM r = readParts ends (fun us => r (toPiece us)) ts :=
  List.mapM_map

/-- A piece in front of others is the first one. -/
theorem pieces_append (h : IsPiece ends ts p) (us : List Token) :
    pieces ends (ts ++ us) = p :: pieces ends us := by
  have hall : ∀ vs, readParts ends (fun us => some (toPiece us)) vs = some (pieces ends vs) :=
    fun vs => List.mapM_pure
  have hparts := readParts_append h us
  rw [hall, hall] at hparts
  exact Option.some.inj hparts

/-- **Pieces one after the other** are read one after the other. -/
theorem mapM_pieces_flatMap (h : AllPieces ends r spell bs as) :
    (pieces ends (bs.flatMap spell)).mapM r = some as :=
  (mapM_pieces r ends _).trans (readParts_flatMap h)

theorem itemPieces_single {item : Item} (h : IsPiece endsItem item.spell p) :
    itemPieces (spellItems [item]) = [p] :=
  pieces_append h []

theorem mapM_itemPieces {items : List Item} (h : AllPieces endsItem r Item.spell items as) :
    (itemPieces (spellItems items)).mapM r = some as := by
  unfold itemPieces
  rw [spellItems_eq_flatMap]
  exact mapM_pieces_flatMap h

theorem mapM_variantPieces {variants : List Variant}
    (h : AllPieces isComma r (fun v => spellVariants [v]) variants as) :
    (fieldPieces (spellVariants variants)).mapM r = some as := by
  unfold fieldPieces
  rw [spellVariants_eq_flatMap]
  exact mapM_pieces_flatMap h

theorem mapM_fieldPieces {fields : List Field}
    (h : AllPieces isComma r (fun f => f.spell ++ [mark ',']) fields as) :
    (fieldPieces (spellNamedFields fields)).mapM r = some as := by
  unfold fieldPieces
  rw [spellNamedFields_eq_flatMap]
  exact mapM_pieces_flatMap h

theorem mapM_armPieces {arms : List Arm}
    (h : AllPieces endsArm r (fun a => spellArms [a]) arms as) :
    (armPieces (spellArms arms)).mapM r = some as := by
  unfold armPieces
  rw [spellArms_eq_flatMap]
  exact mapM_pieces_flatMap h

/-- The attribute of a file belongs to its first item. -/
theorem mapM_filePieces {attr : Attribute} {interpreter : Option String} {item : Item}
    {items : List Item} (hi : attr.isInner = true) (hb : Balances attr.inside)
    (h : AllPieces endsItem r Item.spell (item :: items) as) :
    (itemPieces (SourceFile.spell ⟨interpreter, [attr], item :: items⟩)).mapM r = some as := by
  cases h with
  | @cons _ a _ as hitem hrest =>
    have hspell : SourceFile.spell ⟨interpreter, [attr], item :: items⟩ =
        attr.spell ++ item.spell ++ spellItems items := by
      show (if attr.isInner = true then attr.spell else []) ++ [] ++ (item.spell ++ _) = _
      rw [if_pos hi, List.append_nil, List.append_assoc]
    rw [hspell]
    unfold itemPieces
    rw [mapM_pieces, readParts_append (behind_fileAttribute hitem hi hb), ← mapM_pieces]
    exact congrArg (Option.map _) (mapM_itemPieces hrest)

end Pieces

end Reading

/-! ## Items as pieces -/

section Items

variable {attrs : List Attribute} {name : String} {generics : Generics} {us : List TokenTree}

theorem isPiece_behind_attributes {ts : List Token} {p : Piece} (h : IsPiece endsItem ts p)
    (ha : ∀ a ∈ attrs, Balances a.inside) :
    IsPiece endsItem (spellAttributes false attrs ++ ts) p :=
  h.behind_attributes (skipsAttributes_piece rfl fun _ => rfl) ha

theorem isPiece_enum {variants : List Variant} (ha : ∀ a ∈ attrs, Balances a.inside)
    (hg : Front endsItem (generics.spellParams ++ generics.spellWhere) us)
    (hb : Balances (spellVariants variants)) :
    IsPiece endsItem (Item.enum attrs .pub name generics variants).spell
      ⟨["pub", "enum", name].map Token.ident ++ (generics.spellParams ++ generics.spellWhere),
        some (spellVariants variants)⟩ := by
  have hline := (front_words ["pub", "enum", name]).append hg
  rw [spell_enum, ← List.append_assoc (["pub", "enum", name].map Token.ident)]
  exact isPiece_behind_attributes (isPiece_block hline hb (fun _ => rfl) rfl) ha

theorem isPiece_struct {fields : List Field} (ha : ∀ a ∈ attrs, Balances a.inside)
    (hg : Front endsItem (generics.spellParams ++ generics.spellWhere) us)
    (hb : Balances (spellNamedFields fields)) :
    IsPiece endsItem (Item.struct attrs .pub name generics (.named fields)).spell
      ⟨["pub", "struct", name].map Token.ident ++ (generics.spellParams ++ generics.spellWhere),
        some (spellNamedFields fields)⟩ := by
  have hline := (front_words ["pub", "struct", name]).append hg
  rw [spell_struct, ← List.append_assoc (["pub", "struct", name].map Token.ident)]
  exact isPiece_behind_attributes (isPiece_block hline hb (fun _ => rfl) rfl) ha

theorem isPiece_trait {items : List Item} (ha : ∀ a ∈ attrs, Balances a.inside)
    (ho : ∀ a ∈ attrs, a.isInner = false) (hb : Balances (spellItems items)) :
    IsPiece endsItem (Item.trait attrs .pub [] name Generics.empty [] items).spell
      ⟨["pub", "trait", name].map Token.ident, some (spellItems items)⟩ := by
  rw [spell_trait ho]
  exact isPiece_behind_attributes
    (isPiece_block (front_words ["pub", "trait", name]) hb (fun _ => rfl) rfl) ha

theorem isPiece_ownImplementation {self : Ty} {items : List Item}
    (hh : Front endsItem (generics.spellParams ++ (self.spell ++ generics.spellWhere)) us)
    (hb : Balances (spellItems items)) :
    IsPiece endsItem (Item.implementation generics none self items).spell
      ⟨.ident "impl" :: (generics.spellParams ++ (self.spell ++ generics.spellWhere)),
        some (spellItems items)⟩ := by
  rw [spell_ownImplementation, ← List.append_assoc (["impl"].map Token.ident)]
  exact isPiece_block ((front_words ["impl"]).append hh) hb (fun _ => rfl) rfl

theorem isPiece_traitImplementation {p : Path} {self : Ty} {items : List Item} {head : List Token}
    (hs : generics.spellParams ++
      (p.spell ++ Token.ident "for" :: (self.spell ++ generics.spellWhere)) = head)
    (hh : Front endsItem head us) (hb : Balances (spellItems items)) :
    IsPiece endsItem (Item.implementation generics (some p) self items).spell
      ⟨.ident "impl" :: head, some (spellItems items)⟩ := by
  rw [spell_traitImplementation, ← List.append_assoc (["impl"].map Token.ident), hs]
  exact isPiece_block ((front_words ["impl"]).append hh) hb (fun _ => rfl) rfl

section Functions

variable {vis : Visibility} {params : List FnParam} {output : Option Ty} {out : List TokenTree}

theorem isPiece_function (name : String) {body : List Stmt} (ha : ∀ a ∈ attrs, Balances a.inside)
    (ho : ∀ a ∈ attrs, a.isInner = false) (hv : vis = .pub ∨ vis = .inherited)
    (hp : Balances (commaSeparated (spellFnParams params)))
    (hout : Front endsItem (spellOutput output) out) (hb : Balances (spellStmts body)) :
    IsPiece endsItem (Item.function attrs vis (Signature.plain name params output) body).spell
      ⟨vis.spell ++ (Signature.plain name params output).spell, some (spellStmts body)⟩ := by
  have hhead := front_signature name hp hout
  rw [spell_function, spellAttributes_of_outer ho]
  refine isPiece_behind_attributes ?_ ha
  rcases hv with rfl | rfl
  · exact isPiece_block ((front_words ["pub"]).append hhead) hb (fun _ => rfl) rfl
  · exact isPiece_block ((front_words []).append hhead) hb (fun _ => rfl) rfl

theorem isPiece_fnHead (name : String) (ha : ∀ a ∈ attrs, Balances a.inside)
    (hp : Balances (commaSeparated (spellFnParams params)))
    (hout : Front endsItem (spellOutput output) out) :
    IsPiece endsItem (Item.fnHead attrs .inherited (Signature.plain name params output)).spell
      ⟨(Signature.plain name params output).spell, none⟩ := by
  rw [spell_fnHead]
  exact isPiece_behind_attributes
    (isPiece_line (Or.inr rfl) (front_signature name hp hout) (fun _ => rfl) rfl) ha

end Functions

end Items

/-! ## Arms and statements as pieces -/

section Bodies

variable {p : Pat} {e : Expr} {arms : List Arm} {us : List TokenTree}

theorem isPiece_arm (hl : Front endsArm (p.spell ++ operator ['=', '>'] ++ e.spell) us)
    (hs : ∀ more, skipAllAttributes (us ++ more) = us ++ more) (he : armEnd e = [mark ',']) :
    IsPiece endsArm (spellArms [Arm.plain p e])
      ⟨p.spell ++ operator ['=', '>'] ++ e.spell, none⟩ := by
  rw [spellArms_cons, he, spellArms, List.append_nil]
  exact isPiece_line (Or.inl rfl) hl hs rfl

theorem isPiece_blockArm {body : List Stmt}
    (hl : Front endsArm (p.spell ++ operator ['=', '>']) us)
    (hs : ∀ more, skipAllAttributes (us ++ more) = us ++ more) (hb : Balances (spellStmts body)) :
    IsPiece endsArm (spellArms [Arm.plain p (Expr.braces body)])
      ⟨p.spell ++ operator ['=', '>'], some (spellStmts body)⟩ := by
  have hspell : spellArms [Arm.plain p (Expr.braces body)] =
      p.spell ++ operator ['=', '>'] ++ grouped .brace (spellStmts body) := by
    rw [spellArms_cons, spellArms, List.append_nil]
    exact List.append_nil _
  rw [hspell]
  exact isPiece_block hl hb hs rfl

theorem isPiece_matchOn (hl : Front endsItem e.spell us) (hb : Balances (spellArms arms)) :
    IsPiece endsItem (Expr.matchOn e [] arms).spell
      ⟨.ident "match" :: e.spell, some (spellArms arms)⟩ :=
  isPiece_block ((front_words ["match"]).append hl) hb (fun _ => rfl) rfl

theorem balances_item {item : Item} (h : Balances item.spell) : Balances (spellItems [item]) :=
  h.append .nil

theorem balances_value (h : Balances e.spell) : Balances (spellStmts [Stmt.value e]) :=
  (h.append .nil).append .nil

theorem itemPieces_value {q : Piece} (h : IsPiece endsItem e.spell q) (rest : List Stmt) :
    itemPieces (spellStmts (Stmt.value e :: rest)) = q :: itemPieces (spellStmts rest) := by
  have hspell : spellStmts (Stmt.value e :: rest) = e.spell ++ spellStmts rest :=
    congrArg (· ++ spellStmts rest) (List.append_nil e.spell)
  rw [hspell]
  exact pieces_append h (spellStmts rest)

theorem itemPieces_only {q : Piece} (h : IsPiece endsItem e.spell q) :
    itemPieces (spellStmts [Stmt.value e]) = [q] :=
  itemPieces_value h []

theorem balances_arms {α : Type} {r : List TokenTree → Option α} {as : List α}
    (h : AllRead endsArm r (fun a => spellArms [a]) arms as) : Balances (spellArms arms) := by
  rw [spellArms_eq_flatMap]
  exact h.balances

end Bodies

end DispatchLayer.Code
