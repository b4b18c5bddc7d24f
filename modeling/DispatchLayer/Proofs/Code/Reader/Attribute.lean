import DispatchLayer.Proofs.Code.Reader.Expr

/-!
# Reading attributes

An attribute that stands before what it is about is read from its sign to its closing bracket
(`AttributeReads`). A line of documentation is read whatever its text is, since a literal is one
token. A list of attributes is read in front of anything that is no further one.
-/

namespace DispatchLayer.Code.Reader

open Token

variable {rest : List Token} {g : Grammar} {d : Nat} {attrs : List Attribute}

/-- From a depth on the attribute is read inside of its brackets. -/
def AttributeReads (d : Nat) (a : Attribute) : Prop :=
  a.isInner = false ∧ ∃ inside, a.spell = mark '#' :: Token.grouped .bracket inside ∧
    ∀ g rest, Deep d g → Takes (attributeInside g false) (inside ++ .closing .bracket :: rest)
      (.closing .bracket :: rest) a

theorem AttributeReads.mono {a : Attribute} {d' : Nat} (h : AttributeReads d a) (hd : d ≤ d') :
    AttributeReads d' a := by
  obtain ⟨hinner, inside, hspell, htakes⟩ := h
  exact ⟨hinner, inside, hspell, fun g rest hg => htakes g rest (hg.mono hd)⟩

/-- A line of documentation. -/
theorem attributeReads_text {text : String} (h : spellLiteral text = [.literal text]) :
    AttributeReads 2 (.value false (PlainPath.single "doc") (.literal text)) := by
  refine ⟨rfl, [.ident "doc", mark '=', .literal text], ?_, fun g rest hg => ?_⟩
  · show mark '#' :: Token.grouped .bracket (.ident "doc" :: mark '=' :: spellLiteral text) = _
    rw [h]
  · obtain ⟨g', rfl⟩ := hg.exists_repeat 2 (Nat.le_refl 2)
    exact fun _ => rfl

theorem attributeReads_doc (text : String) : AttributeReads 2 (Attribute.doc text) := by
  refine attributeReads_text (spellLiteral_of_opener (Or.inr ?_))
  rw [String.toList_append, String.toList_append]
  rfl

theorem attributeReads_docEscaped (text : String) :
    AttributeReads 2 (Attribute.docEscaped text) :=
  attributeReads_text (spellLiteral_stringLiteral text)

theorem afterGroup_nameList (rest : List Token) (names : List String) :
    afterGroup 0 (nameList names ++ .closing .paren :: rest) = rest := by
  fun_induction nameList names with
  | case1 => rfl
  | case2 n => rfl
  | case3 n names hne ih => exact ih

theorem insideGroup_nameList (rest : List Token) (names : List String) :
    insideGroup 0 (nameList names ++ .closing .paren :: rest) = nameList names := by
  fun_induction nameList names with
  | case1 => rfl
  | case2 n => rfl
  | case3 n names hne ih => exact congrArg (fun ts => Token.ident n :: mark ',' :: ts) ih

/-- The attribute that derives traits. -/
theorem attributeReads_derive (traits : List String) :
    AttributeReads 2 (Attribute.derive traits) := by
  refine ⟨rfl, .ident "derive" :: Token.grouped .paren (nameList traits), rfl, fun g rest hg => ?_⟩
  obtain ⟨g', rfl⟩ := hg.exists_repeat 2 (Nat.le_refl 2)
  have hraw : Takes rawGroup
      (.opening .paren :: (nameList traits ++ .closing .paren :: .closing .bracket :: rest))
      (.closing .bracket :: rest) (.paren, nameList traits) := by
    intro leftover
    show Except.ok ((Delimiter.paren, insideGroup 0 _), (⟨afterGroup 0 _, leftover⟩ : Input)) = _
    rw [afterGroup_nameList, insideGroup_nameList]
  have hlist := hraw.map fun p => Attribute.list false (PlainPath.single "derive") p.1 p.2
  rw [List.cons_append, Token.grouped, List.cons_append, List.append_assoc]
  exact hlist.of_steps fun _ => rfl

/-- Attributes, in front of anything that is no further one. -/
theorem takes_outerAttributes (hg : Deep d g) (h : ∀ a ∈ attrs, AttributeReads d a)
    (hf : attrs.length < d) (hrest : startsOp ['#'] rest = false) :
    Takes (outerAttributes g) (spellAttributes false attrs ++ rest) rest attrs := by
  refine takes_gather (fun _ more => ∀ a ∈ more, a ∈ attrs)
    (fun more => spellAttributes false more ++ rest) (fun done more hmore => ?_) (fun _ ha => ha)
    (Nat.lt_of_lt_of_le hf hg.fuel)
  cases more with
  | nil =>
    refine Or.inl ((takes_op?_not hrest).bind ?_)
    rw [List.append_nil]
    exact takes_pure
  | cons a more =>
    obtain ⟨hinner, inside, hspell, hreads⟩ := h a (hmore a List.mem_cons_self)
    have htokens : spellAttributes false (a :: more) ++ rest = mark '#' :: .opening .bracket ::
        (inside ++ .closing .bracket :: (spellAttributes false more ++ rest)) := by
      rw [spellAttributes, if_pos hinner, hspell]
      simp [Token.grouped]
    refine Or.inr ⟨a, more, rfl, fun b hb => hmore b (List.mem_cons_of_mem a hb), ?_⟩
    rw [htokens]
    exact (takes_op? rfl).bind ((takes_grouped .bracket (hreads g _ hg)).bind takes_pure)

end DispatchLayer.Code.Reader
