import DispatchLayer.Proofs.Code.Reader.Function
import DispatchLayer.Code.Reader

/-!
# Reading items

What stands in braces is read piece by piece: variants and fields up to the comma that ends each of
them, and the items of a trait or an implementation one after the other.
-/

namespace DispatchLayer.Code.Reader

open Token

variable {α : Type} {ts mid rest more : List Token} {n w l : String} {g : Grammar} {d d' : Nat}
  {t self : Ty} {s : Signature} {attrs : List Attribute} {vis : Visibility} {i : Item}
  {items : List Item} {generics : Generics}

/-! ## Lists with a comma behind each item -/

/-- Items with a comma behind each of them. -/
theorem takes_commaEnded {stop : List Token → Bool} {item : Reader α} {spell : α → List Token}
    {as : List α} {fuel : Nat}
    (hitem : ∀ a ∈ as, ∃ us, spell a = us ++ [mark ','] ∧ ∀ more,
      stop (us ++ mark ',' :: more) = false ∧ Takes item (us ++ mark ',' :: more) (mark ',' :: more) a)
    (hcomma : ∀ more, stop (mark ',' :: more) = false) (hstop : stop rest = true)
    (hf : as.length < fuel) :
    Takes (commaList fuel stop item) (as.flatMap spell ++ rest) rest as := by
  refine takes_gather (fun _ bs => ∀ b ∈ bs, b ∈ as) (fun bs => bs.flatMap spell ++ rest)
    (fun done bs hbs => ?_) (fun _ hb => hb) hf
  cases bs with
  | nil =>
    refine Or.inl (Takes.ahead ?_)
    rw [List.flatMap_nil, List.nil_append, if_pos hstop, List.append_nil]
    exact takes_pure
  | cons b bs =>
    obtain ⟨us, hus, hread⟩ := hitem b (hbs b List.mem_cons_self)
    obtain ⟨hno, ht⟩ := hread (bs.flatMap spell ++ rest)
    refine Or.inr ⟨b, bs, rfl, fun c hc => hbs c (List.mem_cons_of_mem b hc), Takes.ahead ?_⟩
    rw [List.flatMap_cons, hus, List.append_assoc, List.append_assoc, List.singleton_append,
      if_neg (Bool.eq_false_iff.1 hno)]
    refine ht.bind (Takes.ahead ?_)
    rw [if_neg (Bool.eq_false_iff.1 (hcomma _))]
    exact (takes_op rfl).bind takes_pure

/-! ## Variants -/

/-- From a depth on the variant is read up to the comma that ends it. -/
def VariantReads (d : Nat) (v : Variant) : Prop :=
  ∃ us, spellVariants [v] = us ++ [mark ','] ∧ (∀ more, isEnd (us ++ more) = false) ∧
    ∀ g more, Deep d g → Takes (variant g) (us ++ mark ',' :: more) (mark ',' :: more) v

theorem VariantReads.mono {v : Variant} (h : VariantReads d v) (hd : d ≤ d') : VariantReads d' v := by
  obtain ⟨us, hus, hinside, htakes⟩ := h
  exact ⟨us, hus, hinside, fun g more hg => htakes g more (hg.mono hd)⟩

/-- A variant without fields. -/
theorem variantReads_unit (ha : ∀ a ∈ attrs, AttributeReads d a) (hl : attrs.length < d)
    (hn : Keyword.isReserved n = false) : VariantReads d (.mk attrs n .unit none) := by
  refine ⟨spellAttributes false attrs ++ [.ident n], ?_, ?_, fun g more hg => ?_⟩
  · show spellAttributes false attrs ++ Token.ident n :: [] ++ [] ++ [mark ','] = _
    simp
  · intro more
    rw [List.append_assoc]
    exact (opens_attributes ha rfl rfl).1
  · rw [List.append_assoc]
    refine (takes_outerAttributes hg ha hl (startsOp_ident _ _)).bind ?_
    refine (takes_visibility_none (startsWord_plain hn (by decide))).bind ?_
    exact (takes_name hn).bind (Takes.ahead (takes_pure.bind ((takes_op?_not rfl).bind
      (takes_pure.bind takes_pure))))

/-- One field without a name, in its parentheses. -/
theorem takes_tupleFields (hg : Deep (d + 1) g) (ht : TyReads true d t)
    (hpub : ∀ more, startsWord "pub" (t.spell ++ more) = false) :
    Takes (tupleFields g) (.opening .paren :: (t.spell ++ .closing .paren :: rest)) rest
      [Field.positional t] := by
  have hopens := opensTy_append ht.opens (.closing .paren :: rest)
  have hfield : Takes (tupleField g) (t.spell ++ .closing .paren :: rest)
      (.closing .paren :: rest) (Field.positional t) := by
    refine (takes_outerAttributes_none (Nat.lt_of_lt_of_le (Nat.succ_pos d) hg.fuel)
      (startsOp_of_opensTy hopens (by decide) [])).bind ?_
    exact (takes_visibility_none (hpub _)).bind ((ht.reads hg rfl).bind takes_pure)
  have hinside : isEnd (t.spell ++ .closing .paren :: rest) = false := (opensTy_spec hopens).inside
  obtain ⟨fuel, hfuel⟩ := Nat.exists_eq_add_of_le' hg.fuel
  refine takes_grouped .paren ?_
  rw [hfuel]
  refine takes_repeat_done (Takes.ahead ?_) (Nat.succ_pos _)
  rw [hinside]
  exact hfield.bind (Takes.ahead takes_pure)

/-- A variant with one field, which borrows a value. -/
theorem variantReads_reference {life : Option String} (hn : Keyword.isReserved n = false)
    (ht : TyReads true d (.reference life false t)) :
    VariantReads (d + 1)
      (.mk [] n (.tuple [Field.positional (.reference life false t)]) none) := by
  refine ⟨.ident n :: .opening .paren :: ((Ty.reference life false t).spell ++ [.closing .paren]),
    ?_, fun _ => rfl, fun g more hg => ?_⟩
  · show ([] ++ Token.ident n :: (.opening .paren :: ((Ty.reference life false t).spell ++
      [Token.closing .paren])) ++ [] ++ [mark ',']) = _
    simp
  · have hfields := @takes_tupleFields (mark ',' :: more) g d _ hg ht fun _ => rfl
    have hspell : .ident n :: .opening .paren :: ((Ty.reference life false t).spell ++
        [.closing .paren]) ++ mark ',' :: more = .ident n :: .opening .paren ::
          ((Ty.reference life false t).spell ++ .closing .paren :: mark ',' :: more) := by
      simp
    rw [hspell]
    refine (takes_outerAttributes_none (Nat.lt_of_lt_of_le (Nat.succ_pos d) hg.fuel)
      (startsOp_ident _ _)).bind ?_
    refine (takes_visibility_none (startsWord_plain hn (by decide))).bind ?_
    refine (takes_name hn).bind (Takes.ahead ?_)
    exact (hfields.map Fields.tuple).bind ((takes_op?_not rfl).bind (takes_pure.bind takes_pure))

/-- A variant with one field that borrows a value, where the type of the value begins with the word
`try`, which no type does. -/
theorem fails_variant (hg : Deep 2 g) (hn : Keyword.isReserved n = false) (life : String) :
    Fails (variant g) (.ident n :: .opening .paren :: mark '&' ::
      (Token.lifetime life ++ .ident "try" :: ts)) := by
  have hfields : Fails (tupleFields g) (.opening .paren :: mark '&' ::
      (Token.lifetime life ++ .ident "try" :: ts)) := by
    obtain ⟨g', rfl⟩ := hg.exists_repeat 2 (Nat.le_refl 2)
    exact fun _ => ⟨_, rfl⟩
  refine (takes_outerAttributes_none (Nat.lt_of_lt_of_le (Nat.succ_pos 1) hg.fuel)
    (startsOp_ident _ _)).bind_fails ?_
  refine (takes_visibility_none (startsWord_plain hn (by decide))).bind_fails ?_
  exact (takes_name hn).bind_fails (Fails.ahead ((hfields.map Fields.tuple).bind _))

/-! ## Fields -/

/-- A field with its name, up to the comma that ends it. -/
theorem takes_namedField (hg : Deep (d + 1) g) (hn : Keyword.isReserved n = false)
    (ht : TyReads true d t) (k : Nat) :
    Takes (namedField g (k + 1)) ((Field.named n t).spell ++ mark ',' :: rest) (mark ',' :: rest)
      (Field.named n t) := by
  have hspell : (Field.named n t).spell ++ mark ',' :: rest =
      .ident n :: mark ':' :: (t.spell ++ mark ',' :: rest) := rfl
  have hname : Takes (nameOr "_") (.ident n :: mark ':' :: (t.spell ++ mark ',' :: rest))
      (mark ':' :: (t.spell ++ mark ',' :: rest)) n := by
    refine Takes.ahead ?_
    rw [startsWord_plain hn (by decide)]
    exact takes_name hn
  have hne : n ≠ "_" := by
    rintro rfl
    exact absurd hn (by decide)
  rw [hspell]
  refine (takes_outerAttributes_none (Nat.lt_of_lt_of_le (Nat.succ_pos d) hg.fuel)
    (startsOp_ident _ _)).bind ?_
  refine (takes_visibility_none (startsWord_plain hn (by decide))).bind ?_
  have hcolon : Takes (op [':']) (mark ':' :: (t.spell ++ mark ',' :: rest))
      (t.spell ++ mark ',' :: rest) () := takes_op rfl
  refine hname.bind (hcolon.bind (Takes.ahead ?_))
  rw [decide_eq_false hne]
  exact (ht.reads hg rfl).bind takes_pure

/-! ## Items with attributes and a visibility -/

/-- An item, given how it is read after its attributes and its visibility. -/
theorem itemReads_of (w : String) (ts : List Token) (ha : ∀ a ∈ attrs, AttributeReads d a)
    (hl : attrs.length < d) (hv : isSimple vis = true) (hw : startsWord "pub" [.ident w] = false)
    (hspell : ∀ more, i.spell ++ more =
      spellAttributes false attrs ++ (vis.spell ++ Token.ident w :: (ts ++ more)))
    (h : ∀ g rest, Deep d g → Takes (itemAfter g attrs vis) (.ident w :: (ts ++ rest)) rest (some i)) :
    ItemReads Grammar.item (d + 1) i := by
  constructor
  case opens =>
    intro more
    rw [hspell]
    exact opens_attributes ha (isEnd_visibility hv w) (startsInner_of (startsOp_visibility hv w))
  case takes =>
    intro g rest hg
    obtain ⟨g', hg', rfl⟩ := hg.below
    rw [hspell]
    show Takes (itemWith g') _ _ _
    refine Takes.withTokens (a := some i)
      ((takes_outerAttributes hg' ha hl (startsOp_visibility hv w)).bind ?_)
      fun tokens => takes_pure
    exact (takes_visibility hv hw).bind (h g' rest hg')

/-- Items one after the other up to the end. -/
theorem takes_items {r : Grammar → Reader Item} {fuel : Nat}
    (h : ∀ i ∈ items, ItemReads r d i) (hg : Deep d g) (hend : isEnd rest = true)
    (hf : items.length < fuel) :
    Takes (itemsToEnd fuel (r g)) (spellItems items ++ rest) rest items := by
  rw [spellItems_eq_flatMap]
  have hitem : ∀ i ∈ items, ∀ more, True → True ∧ isEnd (i.spell ++ more) = false ∧
      Takes (r g) (i.spell ++ more) more i :=
    fun i hi more _ => ⟨trivial, ((h i hi).opens more).1, (h i hi).takes g more hg⟩
  exact takes_itemsToEnd hitem trivial hend hf

/-- No attribute of what encloses items comes before them. -/
theorem startsInner_items {r : Grammar → Reader Item} (h : ∀ i ∈ items, ItemReads r d i)
    (hrest : startsInner rest = false) : startsInner (spellItems items ++ rest) = false := by
  cases items with
  | nil => exact hrest
  | cons i items =>
    rw [spellItems, List.append_assoc]
    exact ((h i List.mem_cons_self).opens _).2

/-- Items in braces, without attributes of the braces. -/
theorem takes_itemsInside {β : Type} {r : Grammar → Reader Item} (h : ∀ i ∈ items, ItemReads r d i)
    (hg : Deep d g) (hl : items.length < d) (f : List Attribute → List Item → β) :
    Takes (do
      let inside ← innerAttributes g
      return f inside (← itemsToEnd g.fuel (r g))) (spellItems items ++ .closing .brace :: rest)
      (.closing .brace :: rest) (f [] items) := by
  exact (takes_innerAttributes_none (Nat.lt_of_lt_of_le (Nat.zero_lt_of_lt hl) hg.fuel)
    (startsInner_items h rfl)).bind
    ((takes_items h hg rfl (Nat.lt_of_lt_of_le hl hg.fuel)).bind takes_pure)

/-! ## Generic parameters -/

/-- From a depth on the parameters and the conditions of an item are read, the conditions in front
of braces. -/
structure GenericsRead (d : Nat) (generics : Generics) : Prop where
  params : ∀ g rest, Deep d g → startsOp ['<'] rest = false →
    Takes (genericParams g) (generics.spellParams ++ rest) rest generics.params
  starts : ∀ rest, startsImplGenerics (generics.spellParams ++ rest) = true ∨
    generics.spellParams = [] ∧ generics.params = []
  conditions : ∀ g rest, Deep d g →
    Takes (whereClause g) (generics.spellWhere ++ Token.opening .brace :: rest)
      (.opening .brace :: rest)
      generics.conditions
  ends : ∀ rest, startsOp ['<'] (generics.spellWhere ++ Token.opening .brace :: rest) = false ∧
    endsTy (generics.spellWhere ++ Token.opening .brace :: rest) = true ∧
    startsWord "for" (generics.spellWhere ++ Token.opening .brace :: rest) = false

theorem GenericsRead.mono (h : GenericsRead d generics) (hd : d ≤ d') : GenericsRead d' generics :=
  { h with
    params := fun g rest hg hrest => h.params g rest (hg.mono hd) hrest
    conditions := fun g rest hg => h.conditions g rest (hg.mono hd) }

theorem genericsRead_empty : GenericsRead 1 Generics.empty :=
  ⟨fun _ _ _ hrest => takes_genericParams_none hrest, fun _ => Or.inr ⟨rfl, rfl⟩,
    fun _ _ _ => takes_whereClause_none rfl, fun _ => ⟨rfl, rfl, rfl⟩⟩

/-- One lifetime. -/
theorem genericsRead_lifetime (l : String) :
    GenericsRead 2 (Generics.ofParams [.ofLifetime l]) := by
  refine ⟨fun g rest hg _ => ?_, fun _ => Or.inl rfl, fun _ _ _ => takes_whereClause_none rfl,
    fun _ => ⟨rfl, rfl, rfl⟩⟩
  obtain ⟨g', rfl⟩ := hg.exists_repeat 2 (Nat.le_refl 2)
  exact fun _ => rfl

/-- One type with a trait as its bound. -/
theorem genericsRead_bound (hn : Keyword.isReserved n = false) :
    GenericsRead 4 (Generics.ofParams [.ofType "T" [Bound.ofName n]]) :=
  ⟨fun _ _ hg _ => takes_genericParams_bound hg hn, fun _ => Or.inl rfl,
    fun _ _ _ => takes_whereClause_none rfl, fun _ => ⟨rfl, rfl, rfl⟩⟩

/-- One type with the condition that it takes values of another type. -/
theorem genericsRead_predicate (ht : TyReads true d t) :
    GenericsRead (d + 4) (.mk [.ofType "F" []]
      [.type none (Ty.named "F") [Bound.predicate "FnMut" t]]) := by
  refine ⟨fun g rest hg _ => ?_, fun _ => Or.inl rfl,
    fun g rest hg => takes_whereClause_predicate hg ht, fun _ => ⟨rfl, rfl, rfl⟩⟩
  obtain ⟨g', rfl⟩ := hg.exists_repeat 2 (by omega)
  exact fun _ => rfl

/-! ## Enums and structs -/

/-- The tokens of an enum after its word. -/
def enumTail (n : String) (generics : Generics) (vs : List Variant) (more : List Token) :
    List Token :=
  .ident n :: (generics.spellParams ++ (generics.spellWhere ++
    .opening .brace :: (spellVariants vs ++ .closing .brace :: more)))

theorem spell_enum (attrs : List Attribute) (vis : Visibility) (n : String) (generics : Generics)
    (vs : List Variant) (more : List Token) : (Item.enum attrs vis n generics vs).spell ++ more =
      spellAttributes false attrs ++ (vis.spell ++ .ident "enum" ::
        enumTail n generics vs more) := by
  obtain ⟨params, conditions⟩ := generics
  show (spellAttributes false attrs ++ vis.spell ++ Token.ident "enum" :: .ident n ::
    (Generics.mk params conditions).spellParams ++ (Generics.mk params conditions).spellWhere ++
    (Token.opening .brace :: (spellVariants vs ++ [.closing .brace]))) ++ more = _
  simp [enumTail]

theorem itemReads_enum {vs : List Variant} (ha : ∀ a ∈ attrs, AttributeReads d a)
    (hl : attrs.length < d) (hv : isSimple vis = true) (hn : Keyword.isReserved n = false)
    (hgenerics : GenericsRead d generics) (hvs : ∀ v ∈ vs, VariantReads d v)
    (hlength : vs.length < d) :
    ItemReads Grammar.item (d + 1) (.enum attrs vis n generics vs) := by
  have htail : ∀ more, enumTail n generics vs more = enumTail n generics vs [] ++ more := by
    simp [enumTail]
  refine itemReads_of "enum" (enumTail n generics vs []) ha hl hv rfl (fun more => ?_) ?_
  · rw [spell_enum, htail]
  · intro g rest hg
    have hvariants : Takes (commaList g.fuel isEnd (variant g))
        (spellVariants vs ++ .closing .brace :: rest) (.closing .brace :: rest) vs := by
      rw [spellVariants_eq_flatMap]
      refine takes_commaEnded (fun v hmem => ?_) (fun _ => rfl) rfl
        (Nat.lt_of_lt_of_le hlength hg.fuel)
      obtain ⟨us, hus, hinside, htakes⟩ := hvs v hmem
      exact ⟨us, hus, fun more => ⟨hinside _, htakes g more hg⟩⟩
    have henum : Takes (enumItem g attrs vis) (enumTail n generics vs rest) rest
        (.enum attrs vis n generics vs) := by
      obtain ⟨params, conditions⟩ := generics
      exact (takes_name hn).bind ((hgenerics.params g _ hg (hgenerics.ends _).1).bind
        ((hgenerics.conditions g _ hg).bind ((takes_grouped .brace hvariants).bind takes_pure)))
    rw [← htail]
    exact (henum.map some).of_steps fun _ => rfl

/-- An enum whose variants cannot be read. -/
theorem fails_enum {vs : List Variant} (hg : Deep d g) (ha : ∀ a ∈ attrs, AttributeReads d a)
    (hl : attrs.length < d) (hv : isSimple vis = true) (hn : Keyword.isReserved n = false)
    (hgenerics : GenericsRead d generics)
    (hinside : isEnd (spellVariants vs ++ .closing .brace :: rest) = false)
    (h : Fails (variant g) (spellVariants vs ++ .closing .brace :: rest)) :
    Fails (itemWith g) ((Item.enum attrs vis n generics vs).spell ++ rest) := by
  -- Everything up to the braces is read as in an enum that is taken.
  have henum : Fails (enumItem g attrs vis) (enumTail n generics vs rest) :=
    (takes_name hn).bind_fails ((hgenerics.params g _ hg (hgenerics.ends _).1).bind_fails
      ((hgenerics.conditions g _ hg).bind_fails
        ((fails_grouped .brace (fails_commaList hinside h)).bind _)))
  rw [spell_enum]
  refine Fails.withTokens ?_ _
  refine (takes_outerAttributes hg ha hl (startsOp_visibility hv "enum")).bind_fails
    ((takes_visibility hv rfl).bind_fails ?_)
  exact (henum.map some).of_steps fun _ => rfl

/-- From a depth on the field is read up to the comma that ends it. -/
structure FieldReads (d : Nat) (f : Field) : Prop where
  inside : ∀ more, isEnd (f.spell ++ more) = false
  takes : ∀ g k rest, Deep d g →
    Takes (namedField g (k + 1)) (f.spell ++ mark ',' :: rest) (mark ',' :: rest) f

theorem FieldReads.mono {f : Field} (h : FieldReads d f) (hd : d ≤ d') : FieldReads d' f :=
  { h with takes := fun g k rest hg => h.takes g k rest (hg.mono hd) }

theorem fieldReads_named (hn : Keyword.isReserved n = false) (ht : TyReads true d t) :
    FieldReads (d + 1) (Field.named n t) :=
  ⟨fun _ => rfl, fun _ k _ hg => takes_namedField hg hn ht k⟩

/-- The fields of a struct in braces. -/
theorem takes_namedFields {fs : List Field} (hfs : ∀ f ∈ fs, FieldReads d f)
    (hlength : fs.length < d) (hg : Deep d g) :
    Takes (namedFields g) (.opening .brace :: (spellNamedFields fs ++ .closing .brace :: rest)) rest
      fs := by
  obtain ⟨fuel, hfuel⟩ := Nat.exists_eq_add_of_lt
    (Nat.lt_of_lt_of_le (Nat.zero_lt_of_lt hlength) hg.fuel)
  refine takes_grouped .brace ?_
  rw [spellNamedFields_eq_flatMap]
  refine takes_commaEnded (fun f hmem => ⟨f.spell, rfl, fun more => ?_⟩) (fun _ => rfl) rfl
    (Nat.lt_of_lt_of_le hlength hg.fuel)
  rw [hfuel]
  exact ⟨(hfs f hmem).inside _, (hfs f hmem).takes g _ more hg⟩

theorem itemReads_struct {fs : List Field} {ps : List GenericParam}
    (ha : ∀ a ∈ attrs, AttributeReads d a) (hl : attrs.length < d) (hv : isSimple vis = true)
    (hn : Keyword.isReserved n = false) (hgenerics : GenericsRead d (Generics.ofParams ps))
    (hfs : ∀ f ∈ fs, FieldReads d f) (hlength : fs.length < d) :
    ItemReads Grammar.item (d + 1) (.struct attrs vis n (Generics.ofParams ps) (.named fs)) := by
  refine itemReads_of "struct" (.ident n :: ((Generics.ofParams ps).spellParams ++
    .opening .brace :: (spellNamedFields fs ++ [.closing .brace]))) ha hl hv rfl ?_ ?_
  · intro more
    show (spellAttributes false attrs ++ vis.spell ++ Token.ident "struct" :: .ident n ::
      (Generics.ofParams ps).spellParams ++
      ([] ++ Token.opening .brace :: (spellNamedFields fs ++ [Token.closing .brace]))) ++ more = _
    simp
  · intro g rest hg
    have hbody : Takes (structBody g)
        (.opening .brace :: (spellNamedFields fs ++ .closing .brace :: rest)) rest
        (.named fs, []) := by
      refine Takes.bind (a := none) ((takes_word?_not rfl).bind takes_pure) (Takes.ahead ?_)
      exact (takes_namedFields hfs hlength hg).bind takes_pure
    have hstruct : Takes (structItem g attrs vis)
        (.ident n :: ((Generics.ofParams ps).spellParams ++
          .opening .brace :: (spellNamedFields fs ++ .closing .brace :: rest))) rest
        (.struct attrs vis n (Generics.ofParams ps) (.named fs)) :=
      (takes_name hn).bind ((hgenerics.params g _ hg rfl).bind (hbody.bind takes_pure))
    have hspell : Token.ident n :: ((Generics.ofParams ps).spellParams ++
        Token.opening .brace :: (spellNamedFields fs ++ [Token.closing .brace])) ++ rest =
        .ident n :: ((Generics.ofParams ps).spellParams ++
          .opening .brace :: (spellNamedFields fs ++ .closing .brace :: rest)) := by
      simp
    rw [hspell]
    exact (hstruct.map some).of_steps fun _ => rfl

/-- A struct with one field that has no name. -/
theorem itemReads_newtype {ps : List GenericParam} (ha : ∀ a ∈ attrs, AttributeReads (d + 1) a)
    (hl : attrs.length < d + 1) (hv : isSimple vis = true) (hn : Keyword.isReserved n = false)
    (hgenerics : GenericsRead (d + 1) (Generics.ofParams ps)) (ht : TyReads true d t)
    (hpub : ∀ more, startsWord "pub" (t.spell ++ more) = false) :
    ItemReads Grammar.item (d + 2)
      (.struct attrs vis n (Generics.ofParams ps) (.tuple [Field.positional t])) := by
  have hfield : ∀ more, (commaSeparated (spellFields [Field.positional t])) ++ more =
      t.spell ++ more := fun _ => rfl
  refine itemReads_of "struct" (.ident n :: ((Generics.ofParams ps).spellParams ++
    .opening .paren :: (t.spell ++ [.closing .paren, mark ';']))) ha hl hv rfl ?_ ?_
  · intro more
    show (spellAttributes false attrs ++ vis.spell ++ Token.ident "struct" :: .ident n ::
      (Generics.ofParams ps).spellParams ++
      (Token.opening .paren :: (t.spell ++ [Token.closing .paren]) ++ [] ++ [mark ';'])) ++ more = _
    simp
  · intro g rest hg
    have hbody : Takes (structBody g)
        (.opening .paren :: (t.spell ++ .closing .paren :: mark ';' :: rest)) rest
        (.tuple [Field.positional t], []) := by
      refine Takes.bind (a := none) ((takes_word?_not rfl).bind takes_pure) (Takes.ahead ?_)
      refine (takes_tupleFields hg ht hpub).bind ?_
      refine Takes.bind (a := none) ((takes_word?_not rfl).bind takes_pure) ?_
      exact (takes_op? rfl).bind takes_pure
    have hstruct : Takes (structItem g attrs vis)
        (.ident n :: ((Generics.ofParams ps).spellParams ++
          .opening .paren :: (t.spell ++ .closing .paren :: mark ';' :: rest))) rest
        (.struct attrs vis n (Generics.ofParams ps) (.tuple [Field.positional t])) :=
      (takes_name hn).bind ((hgenerics.params g _ hg rfl).bind (hbody.bind takes_pure))
    have hspell : Token.ident n :: ((Generics.ofParams ps).spellParams ++
        Token.opening .paren :: (t.spell ++ [Token.closing .paren, mark ';'])) ++ rest =
        .ident n :: ((Generics.ofParams ps).spellParams ++
          .opening .paren :: (t.spell ++ .closing .paren :: mark ';' :: rest)) := by
      simp
    rw [hspell]
    exact (hstruct.map some).of_steps fun _ => rfl

/-! ## Traits -/

/-- The head of a function in a trait. -/
theorem itemReads_fnHead (ha : ∀ a ∈ attrs, AttributeReads d a) (hl : attrs.length < d)
    (hs : SignatureReads d s) : ItemReads traitItem d (.fnHead attrs .inherited s) := by
  obtain ⟨us, hus⟩ := hs.begins
  have hspell : ∀ more, (Item.fnHead attrs .inherited s).spell ++ more =
      spellAttributes false attrs ++ (.ident "fn" :: (us ++ mark ';' :: more)) := by
    intro more
    show (spellAttributes false attrs ++ [] ++ s.spell ++ [mark ';']) ++ more = _
    rw [hus]
    simp
  constructor
  case opens =>
    intro more
    rw [hspell]
    exact opens_attributes ha rfl rfl
  case takes =>
    intro g rest hg
    have hsignature := hs.takes g _ rest hg (Or.inr rfl)
    rw [hus] at hsignature
    have hfn : Takes (traitFn g attrs) (.ident "fn" :: (us ++ mark ';' :: rest)) rest
        (.fnHead attrs .inherited s) :=
      hsignature.bind (Takes.ahead ((takes_op? rfl).bind takes_pure))
    have hitem : Takes (some <$> traitFn g attrs >>= pure)
        (.ident "fn" :: (us ++ mark ';' :: rest)) rest (some (.fnHead attrs .inherited s)) :=
      (hfn.map some).bind takes_pure
    rw [hspell]
    refine Takes.withTokens (a := some (.fnHead attrs .inherited s))
      ((takes_outerAttributes hg ha hl rfl).bind ?_) fun tokens => takes_pure
    exact hitem.of_steps fun _ => rfl

theorem itemReads_trait (ha : ∀ a ∈ attrs, AttributeReads d a) (hl : attrs.length < d)
    (hv : isSimple vis = true) (hn : Keyword.isReserved n = false)
    (h : ∀ i ∈ items, ItemReads traitItem d i) (hlength : items.length < d) :
    ItemReads Grammar.item (d + 1) (.trait attrs vis [] n Generics.empty [] items) := by
  refine itemReads_of "trait" (.ident n :: .opening .brace ::
    (spellItems items ++ [.closing .brace])) ha hl hv rfl ?_ ?_
  · intro more
    show (spellAttributes false attrs ++ vis.spell ++ [] ++ Token.ident "trait" :: .ident n :: [] ++
      [] ++ [] ++ (Token.opening .brace :: ((spellAttributes true attrs ++ spellItems items) ++
        [Token.closing .brace]))) ++ more = _
    rw [spellAttributes_inner ha]
    simp
  · intro g rest hg
    -- Attributes at the beginning of the braces would be the trait's own; there are none.
    have hinside := @takes_itemsInside rest _ _ _ _ _ h hg hlength fun inside items =>
      Item.trait (attrs ++ inside) vis [] n Generics.empty [] items
    rw [List.append_nil] at hinside
    have htrait : Takes (traitOrSum g attrs vis)
        (.ident n :: .opening .brace :: (spellItems items ++ .closing .brace :: rest)) rest
        (.trait attrs vis [] n Generics.empty [] items) := by
      refine (takes_name hn).bind ((takes_genericParams_none rfl).bind (Takes.ahead ?_))
      refine (takes_op?_not rfl).bind (takes_pure.bind ((takes_whereClause_none rfl).bind ?_))
      exact takes_grouped .brace hinside
    have hspell : Token.ident n :: .opening .brace :: (spellItems items ++ [.closing .brace]) ++ rest =
        .ident n :: .opening .brace :: (spellItems items ++ .closing .brace :: rest) := by
      simp
    rw [hspell]
    exact (htrait.map some).of_steps fun _ => rfl

/-! ## Implementations -/

/-- The tokens of the trait that is implemented, if there is one. -/
def spellTrait : Option Path → List Token
  | none => []
  | some p => p.spell ++ [.ident "for"]

/-- The types that an implementation is about. -/
structure HeadReads (d : Nat) (trait? : Option Path) (t : Ty) : Prop where
  implemented : ∀ p ∈ trait?, TyReads true d (Ty.ofPath p)
  own : TyReads true d t
  constant : ∀ more, startsWord "const" (spellTrait trait? ++ (t.spell ++ more)) = false

theorem HeadReads.opens {trait? : Option Path} (h : HeadReads d trait? t) (more : List Token) :
    opensTy (spellTrait trait? ++ (t.spell ++ more)) = true := by
  cases trait? with
  | none => exact opensTy_append h.own.opens more
  | some p =>
    have hp : opensTy p.spell = true := (h.implemented p rfl).opens
    exact opensTy_append (opensTy_append hp _) _

/-- The tokens of an implementation after the types it is about. -/
def implBody (generics : Generics) (items : List Item) (more : List Token) : List Token :=
  generics.spellWhere ++ .opening .brace :: (spellItems items ++ .closing .brace :: more)

/-- The tokens of an implementation after its parameters. -/
def implHead (generics : Generics) (trait? : Option Path) (t : Ty) (items : List Item)
    (more : List Token) : List Token :=
  spellTrait trait? ++ (t.spell ++ implBody generics items more)

theorem spell_implementation (generics : Generics) (trait? : Option Path) (t : Ty)
    (items : List Item) (more : List Token) :
    (Item.implementation generics trait? t items).spell ++ more =
      .ident "impl" :: (generics.spellParams ++ implHead generics trait? t items more) := by
  obtain ⟨params, conditions⟩ := generics
  cases trait? with
  | none =>
    show ([] ++ [] ++ Token.ident "impl" :: (Generics.mk params conditions).spellParams ++ [] ++
      t.spell ++ (Generics.mk params conditions).spellWhere ++
      (Token.opening .brace :: (([] ++ spellItems items) ++ [Token.closing .brace]))) ++ more = _
    simp [implHead, implBody, spellTrait]
  | some p =>
    show ([] ++ [] ++ Token.ident "impl" :: (Generics.mk params conditions).spellParams ++
      ([] ++ p.spell ++ [Token.ident "for"]) ++ t.spell ++
      (Generics.mk params conditions).spellWhere ++
      (Token.opening .brace :: (([] ++ spellItems items) ++ [Token.closing .brace]))) ++ more = _
    simp [implHead, implBody, spellTrait]

/-- The parameters of an implementation are read if there are any: what comes after them does not
begin with an angle bracket. -/
theorem GenericsRead.takes_implParams (h : GenericsRead d generics) (hg : Deep d g)
    (hangle : startsOp ['<'] ts = false) :
    Takes (if startsImplGenerics (generics.spellParams ++ ts) then genericParams g else pure [])
      (generics.spellParams ++ ts) ts generics.params := by
  rcases h.starts ts with hs | ⟨hs, hp⟩
  · rw [if_pos hs]
    exact h.params g _ hg hangle
  · rw [hs, List.nil_append, hp]
    unfold startsImplGenerics
    rw [hangle]
    exact takes_pure

/-- The conditions and the items of an implementation, after its types. They make an item unless
`for` stood behind a type that names no trait. -/
theorem takes_implBody {trait? : Option Path} {hasFor : Bool} (hgenerics : GenericsRead d generics)
    (h : ∀ i ∈ items, ItemReads implItem d i) (hlength : items.length < d) (hg : Deep d g)
    (hfor : (hasFor && trait?.isNone) = false) :
    Takes (do
      let conditions ← whereClause g
      let inside ← Reader.grouped .brace do
        let attrs ← innerAttributes g
        return (attrs, ← itemsToEnd g.fuel (implItem g))
      return if !isInherited .inherited || false || (hasFor && trait?.isNone) then none
        else some (Item.impl ([] ++ inside.1) [] (.mk generics.params conditions) false trait? t
          inside.2))
      (implBody generics items rest) rest (some (.implementation generics trait? t items)) := by
  obtain ⟨params, conditions⟩ := generics
  refine (hgenerics.conditions g _ hg).bind
    ((takes_grouped .brace (takes_itemsInside h hg hlength Prod.mk)).bind ?_)
  dsimp only
  rw [hfor]
  exact takes_pure

/-- An implementation without attributes, from its word on. -/
theorem takes_implementation {trait? : Option Path} (hgenerics : GenericsRead d generics)
    (hhead : HeadReads d trait? t) (h : ∀ i ∈ items, ItemReads implItem d i)
    (hlength : items.length < d) (hg : Deep (d + 1) g) :
    Takes (implementation g [] .inherited)
      (.ident "impl" :: (generics.spellParams ++ implHead generics trait? t items rest)) rest
      (some (.implementation generics trait? t items)) := by
  have hlow := hg.mono (Nat.le_succ d)
  -- The types after the parameters begin with no mark that would mean something else here.
  have hopens : opensTy (implHead generics trait? t items rest) = true := hhead.opens _
  have hangle := startsOp_of_opensTy hopens (c := '<') (by decide) []
  have hbang := startsOp_of_opensTy hopens (c := '!') (by decide) []
  have hquestion := startsOp_of_opensTy hopens (c := '?') (by decide) []
  have hconst : startsWord "const" (implHead generics trait? t items rest) = false :=
    hhead.constant _
  obtain ⟨-, hends, hfor⟩ := hgenerics.ends (spellItems items ++ .closing .brace :: rest)
  have hwords : ∀ ts, Takes (wordsInOrder ["default", "unsafe"]) (.ident "impl" :: ts)
      (.ident "impl" :: ts) [] := fun _ _ => rfl
  refine (hwords _).bind ((takes_word "impl").bind
    (Takes.ahead ((hgenerics.takes_implParams hlow hangle).bind_ite ?_)))
  refine Takes.ahead (Takes.ahead (Takes.ahead ?_))
  dsimp only
  rw [hconst, hquestion]
  refine Takes.ahead (Takes.ahead ?_)
  rw [hbang]
  cases trait? with
  | none =>
    -- Without `for`, the type is the one that the implementation is about, path or not.
    refine (hhead.own.reads hg hends).bind ((takes_word?_not hfor).bind ?_)
    refine Takes.bind (a := t) takes_pure ?_
    split
    · exact takes_implBody hgenerics h hlength hlow rfl
    · exact takes_implBody hgenerics h hlength hlow rfl
  | some p =>
    have hrest : endsTy (.ident "for" :: (t.spell ++ implBody generics items rest)) = true := rfl
    have hspell : implHead generics (some p) t items rest =
        (Ty.ofPath p).spell ++ .ident "for" :: (t.spell ++ implBody generics items rest) := by
      show (p.spell ++ [.ident "for"]) ++ (t.spell ++ implBody generics items rest) = _
      simp [spell_tyOfPath]
    rw [hspell]
    refine ((hhead.implemented p rfl).reads hg hrest).bind ((takes_word? "for").bind ?_)
    exact (hhead.own.reads hg hends).bind (takes_implBody hgenerics h hlength hlow rfl)

theorem itemReads_implementation {trait? : Option Path} (hgenerics : GenericsRead d generics)
    (hhead : HeadReads d trait? t) (h : ∀ i ∈ items, ItemReads implItem d i)
    (hlength : items.length < d) :
    ItemReads Grammar.item (d + 2) (Item.implementation generics trait? t items) := by
  have hattrs : ∀ a ∈ ([] : List Attribute), AttributeReads (d + 1) a := by simp
  have hsimple : isSimple .inherited = true := rfl
  have htail : ∀ more, generics.spellParams ++ implHead generics trait? t items more =
      generics.spellParams ++ implHead generics trait? t items [] ++ more := by
    simp [implHead, implBody]
  refine itemReads_of "impl" (generics.spellParams ++ implHead generics trait? t items []) hattrs
    (Nat.succ_pos d) hsimple rfl (fun more => ?_) fun g rest hg => ?_
  · rw [spell_implementation, htail]
    rfl
  · rw [← htail]
    exact (takes_implementation hgenerics hhead h hlength hg).of_steps fun _ => rfl

/-! ## Source files -/

theorem Takes.run {r : Reader α} {a : α} (h : Takes r ts [] a) : run r ts = .ok a := by
  unfold Reader.run
  show (r ⟨ts, none⟩ >>= fun p => _) = _
  rw [h none]
  rfl

/-- Items that are read have tokens. -/
theorem length_le_length_spellItems {r : Grammar → Reader Item} (h : ∀ i ∈ items, ItemReads r d i) :
    items.length ≤ (spellItems items).length := by
  induction items with
  | nil => exact Nat.le_refl 0
  | cons i items ih =>
    have hne : i.spell ≠ [] := by
      intro hi
      have ho := ((h i List.mem_cons_self).opens []).1
      rw [hi] at ho
      cases ho
    have hi := List.length_pos_iff.2 hne
    have hitems := ih fun j hj => h j (List.mem_cons_of_mem i hj)
    rw [spellItems, List.length_append, List.length_cons]
    omega

theorem length_spell_le (h : i ∈ items) : i.spell.length ≤ (spellItems items).length := by
  rw [spellItems_eq_flatMap]
  exact (List.sublist_flatten_of_mem (List.mem_map_of_mem h)).length_le

/-- A source file whose first item cannot be read at any depth. -/
theorem ofTokens?_of_fails {attrs : List Attribute} {more : List Item}
    (hattrs : ∀ g rest, Deep 16 g → startsInner rest = false →
      Takes (innerAttributes g) (spellAttributes true attrs ++ rest) rest attrs)
    (hinner : startsInner (i.spell ++ spellItems more) = false)
    (hinside : isEnd (i.spell ++ spellItems more) = false)
    (h : ∀ g, Deep 16 g → Fails g.item (i.spell ++ spellItems more)) :
    ∃ e, SourceFile.ofTokens? (SourceFile.mk none attrs (i :: more)).spell = .error e := by
  have hg : Deep 16 (Grammar.forTokens (SourceFile.mk none attrs (i :: more)).spell) :=
    ⟨_, Nat.le_add_left 16 _, rfl⟩
  exact Fails.run ((hattrs _ _ hg hinner).bind_fails
    ((fails_itemsToEnd hinside (h _ hg)).bind _))

/-- A source file whose items are read at a depth that its length allows. -/
theorem ofTokens?_of_items {attrs : List Attribute}
    (hattrs : ∀ g rest, Deep 16 g → startsInner rest = false →
      Takes (innerAttributes g) (spellAttributes true attrs ++ rest) rest attrs)
    (h : ∀ i ∈ items, ItemReads Grammar.item ((spellItems items).length + 16) i) :
    SourceFile.ofTokens? (SourceFile.mk none attrs items).spell = .ok ⟨none, attrs, items⟩ := by
  have hlength : (SourceFile.mk none attrs items).spell.length =
      (spellAttributes true attrs).length + (spellItems items).length := List.length_append
  have hg : Deep ((spellItems items).length + 16)
      (Grammar.forTokens (SourceFile.mk none attrs items).spell) := ⟨_, by omega, rfl⟩
  have hcount := length_le_length_spellItems h
  have hitems := takes_items h hg (show isEnd [] = true from rfl)
    (Nat.lt_of_lt_of_le (by omega) hg.fuel)
  rw [List.append_nil] at hitems
  have hinner : startsInner (spellItems items) = false := by
    have hempty := startsInner_items h (show startsInner [] = false from rfl)
    rwa [List.append_nil] at hempty
  exact Takes.run ((hattrs _ _ (hg.mono (by omega)) hinner).bind (hitems.bind takes_pure))

end DispatchLayer.Code.Reader
