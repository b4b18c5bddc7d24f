import DispatchLayer.Proofs.Emission.Syntax.Parts
import DispatchLayer.Proofs.Emission.Tree

/-!
# Reading the handlers file

The items of the handlers file are read back one by one: the node type, the labels of its variants,
the conversions and the traits with their implementations for closures.
-/

namespace DispatchLayer.Emission

open Code Code.Reader Token

variable {variant traitName method : String} {t : Ty} {d : Nat} {doc : Attribute}

/-! ## The node type -/

theorem attributeReads_all {attrs : List Attribute} (h : ∀ a ∈ attrs, AttributeReads 2 a)
    (hd : 2 ≤ d) : ∀ a ∈ attrs, AttributeReads d a := fun a ha => (h a ha).mono hd

theorem attributeReads_one (h : AttributeReads 2 doc) (hd : 2 ≤ d) :
    ∀ a ∈ [doc], AttributeReads d a := List.forall_mem_singleton.2 (h.mono hd)

/-- A variant of the node type. -/
theorem variantReads_node (hv : Keyword.isReserved variant = false) (ht : TyReads false d t) :
    VariantReads (d + 2) (nodeVariant variant t) :=
  variantReads_reference hv (tyReads_nodeRef true ht)

theorem attributeReads_nodeItem (hd : 2 ≤ d) :
    ∀ a ∈ [Attribute.doc " A syntax-tree node handed to `Visitor::visit`.",
      Attribute.doc "", Attribute.doc " Nodes whose kind has no variant of its own travel as `Other`.",
      Attribute.derive ["Clone", "Copy"]], AttributeReads d a := by
  refine attributeReads_all (List.forall_mem_cons.2 ⟨attributeReads_doc _, ?_⟩) hd
  exact List.forall_mem_cons.2
    ⟨attributeReads_doc _, forall_mem_pair (attributeReads_doc _) (attributeReads_derive _)⟩

theorem itemReads_nodeItem {variants : List Variant} (h : ∀ v ∈ variants, VariantReads d v)
    (hl : variants.length + 1 < d) (hd : 7 ≤ d) :
    ItemReads Grammar.item (d + 1) (nodeItem variants) :=
  itemReads_enum (attributeReads_nodeItem (by omega)) (by simp; omega) rfl (by decide)
    ((genericsRead_lifetime _).mono (by omega))
    (forall_mem_snoc h ((variantReads_node (by decide) tyReads_anyTy).mono hd)) (by simpa using hl)

theorem tyReads_staticStr : TyReads true 2 staticStr :=
  (tyReads_named false (by decide)).reference true _ _

/-- The name of the last variant is no keyword. -/
theorem not_reserved_other : Keyword.isReserved Naming.otherVariant = false := by decide

/-- The implementation of the method for the labels. -/
theorem itemReads_labelItem {arms : List Arm} (ha : ∀ a ∈ arms, ArmReads d a)
    (hl : arms.length + 1 < d) (hd : 3 ≤ d) : ItemReads Grammar.item (d + 4) (labelItem arms) := by
  have hself := matchReads_name exprReads_self
    (forall_mem_snoc ha ((armReads_label not_reserved_other Naming.otherVariant).mono hd))
    (by simpa using hl) (by omega)
  have hbody := stmtsRead_of (.last (hself.stmt true)) (by simp)
  have hsignature : SignatureReads 3 (Signature.plain "kind" [FnParam.selfRef] (some staticStr)) :=
    signatureReads_plain (by decide) (by simpa using paramReads_selfRef.mono (by decide)) (by simp)
      (by decide) tyReads_staticStr
  have hkind : ItemReads implItem (d + 2) (.function _ .pub _ _) :=
    itemReads_function (attributeReads_one (attributeReads_doc " Kind name of this node.")
      (Nat.le_add_left 2 d)) (by simp) rfl (hsignature.mono (by omega)) hbody
  exact itemReads_implementation ((genericsRead_lifetime _).mono (by omega))
    ⟨by simp, (tyReads_nodeTy true _).mono (by omega), fun _ => rfl⟩
    (List.forall_mem_singleton.2 hkind) (by simp)

/-! ## Conversions -/

/-- A trait of the standard library for conversions, applied to a type. -/
theorem tyReads_from (ht : TyReads true d t) (hd : 2 ≤ d) :
    TyReads true (d + 1) (Ty.ofPath (Path.applied true ["core", "convert"] "From" [.type t])) :=
  tyReads_applied true ⟨by decide, nofun⟩ (by decide) ht.arg (by omega) (by simpa using hd)

theorem itemReads_conversionItem (hv : Keyword.isReserved variant = false) (ht : TyReads false d t)
    (hd : 1 < d) : ItemReads Grammar.item (d + 5) (conversionItem variant t) := by
  have hnode : TyReads true (d + 1) (nodeRef t) := tyReads_nodeRef true ht
  have hsignature : SignatureReads (d + 3) (Signature.plain "from"
      [FnParam.named "node" (nodeRef t)] (some (Ty.named "Self"))) :=
    signatureReads_plain (by decide) (by simpa using paramReads_named (by decide) hnode) (by simp)
      (by simp) ((tyReads_self true).mono (by omega))
  have hfrom : ItemReads implItem (d + 3) (.function [] .inherited _ _) :=
    itemReads_function (by simp) (by simp) rfl hsignature
      ((stmtsRead_conversion hv).mono (by omega))
  have htrait : TyReads true (d + 3) _ := (tyReads_from hnode (by omega)).mono (Nat.le_succ _)
  exact itemReads_implementation ((genericsRead_lifetime _).mono (by omega))
    ⟨forall_mem_some htrait, (tyReads_nodeTy true _).mono (by omega), fun _ => rfl⟩
    (List.forall_mem_singleton.2 hfrom) (by simp)

/-! ## Handler traits -/

theorem itemReads_contractItems (hdoc : AttributeReads 2 doc)
    (hx : Keyword.isReserved traitName = false) (hm : Keyword.isReserved method = false)
    (ht : TyReads true d t) (hd : 1 < d) :
    ∀ i ∈ contractItems doc traitName method t, ItemReads Grammar.item (d + 6) i := by
  have hsignature := signatureReads_handler hm ht hd
  have hhead : ItemReads traitItem (d + 2) (.fnHead _ .inherited _) :=
    itemReads_fnHead (attributeReads_one
      (attributeReads_doc " Return `false` to skip the node's children.") (Nat.le_add_left 2 d))
      (by simp) hsignature
  have htrait : ItemReads Grammar.item (d + 6) (.trait [doc] .pub [] traitName Generics.empty [] _) :=
    (itemReads_trait (attributeReads_one hdoc (Nat.le_add_left 2 d)) (by simp) rfl hx
      (List.forall_mem_singleton.2 hhead) (by simp)).mono (by omega)
  have hcall : ItemReads implItem (d + 4) (.function [] .inherited _ _) :=
    itemReads_function (by simp) (by simp) rfl (hsignature.mono (by omega))
      (stmtsRead_closure.mono (by omega))
  refine forall_mem_pair htrait (itemReads_implementation (genericsRead_predicate ht) ⟨?_, ?_, ?_⟩
    (List.forall_mem_singleton.2 hcall) (by simp))
  · exact forall_mem_some ((tyReads_named true hx).mono (by omega))
  · exact (tyReads_named true (by decide)).mono (by omega)
  · intro more
    exact startsWord_plain hx (by decide)

end DispatchLayer.Emission
