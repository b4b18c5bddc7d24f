import DispatchLayer.Proofs.Emission.Wiring
import DispatchLayer.Routing

/-!
# The emitted visitor routes nodes

The outline of a visitor file says what its methods do: which field a registration fills, which
fields `has_handler_for` tests and which calls `visit` makes. Here they are run on what the fields
hold (`Registration.fill`, `Distinction.test`, `Distinction.call`). Fields stand for a visitor with
a slot for each kind of the catalog (`visitorOf`), and on such a visitor registering, testing and
calling are those of `Routing.Visitor`: each method is one lemma, and a sequence of registrations
follows by induction (`registerAll_eq`). So whatever is generated for a catalog routes nodes as
`Routing.Visitor` does (`emitted_visitor_routes`).
-/

namespace DispatchLayer.Emission

open Plan
open Routing (Handler Visitor)

variable {ι : Type}

/-! ## Running the methods -/

/-- What the fields of a visitor hold. -/
abbrev Fields (ι : Type) := String → Option (Handler ι)

/-- The fields after a registration. -/
def Registration.fill (r : Registration) (h : Handler ι) (fields : Fields ι) : Fields ι :=
  fun slot => if slot = r.slot then some h else fields slot

/-- The answer of `has_handler_for` for a node with this variant: the test of its arm, or else of
the field that is fallen back on. -/
def Distinction.test (d : Distinction String) (fields : Fields ι) (variant : String) : Bool :=
  let specific := match d.arms.lookup variant with
    | some (some slot) => (fields slot).isSome
    | _ => false
  specific || (fields d.fallback).isSome

/-- The call, with the handler, that `visit` makes for a node with this variant: that of its arm if
the field is filled, else the one that is fallen back on, if that field is. -/
def Distinction.call (d : Distinction SlotCall) (fields : Fields ι) (variant : String) :
    Option (SlotCall × Handler ι) :=
  let own := (d.arms.lookup variant).join.bind fun call => (fields call.slot).map (call, ·)
  own.or ((fields d.fallback.slot).map (d.fallback, ·))

/-- The fields after calls of registration methods, each given by its name; none if there is no such
method. -/
def VisitorOutline.registerAll (v : VisitorOutline) :
    Fields ι → List (String × Handler ι) → Option (Fields ι)
  | fields, [] => some fields
  | fields, (method, h) :: rest =>
    (v.registrations.lookup method).bind fun r => v.registerAll (r.fill h fields) rest

/-! ## The visitor that fields stand for -/

/-- A kind of a catalog. -/
abbrev KindOf (kinds : List String) := { name : String // name ∈ kinds }

variable {kinds : List String}

/-- The variant of nodes of a kind, or without one. -/
def variantOf : Option (KindOf kinds) → String
  | some k => k.1
  | none => "Other"

/-- The method that registers a handler for a kind, or the catch-all. -/
def registerOf : Option (KindOf kinds) → String
  | some k => (KindNames.ofName k.1).registerFn
  | none => "on_default"

/-- The call of a handler in the slot of a kind, or of the catch-all. -/
def callOf : Option (KindOf kinds) → SlotCall
  | some k => ⟨(KindNames.ofName k.1).slot, (KindNames.ofName k.1).method⟩
  | none => ⟨"h_default", "handle"⟩

/-- The visitor that fields stand for. -/
def visitorOf (kinds : List String) (fields : Fields ι) : Visitor (KindOf kinds) ι :=
  ⟨fun k => fields (KindNames.ofName k.1).slot, fields "h_default"⟩

/-- A registration, for a kind or for all nodes. -/
def register (v : Visitor (KindOf kinds) ι) : Option (KindOf kinds) × Handler ι →
    Visitor (KindOf kinds) ι
  | (some k, h) => v.on k h
  | (none, h) => v.onDefault h

/-! ## One method -/

namespace InOrder

variable {key : String → String} {last : String} {keys : List String}

theorem keys_nodup (h : InOrder kinds key last keys) :
    (kinds.map key).Nodup ∧ last ∉ kinds.map key := by
  have hn := h.once
  rw [h.order, List.nodup_append] at hn
  exact ⟨hn.1, fun hm => hn.2.2 last hm last (List.mem_singleton_self last) rfl⟩

theorem key_inj (h : InOrder kinds key last keys) (j k : KindOf kinds) :
    key j.1 = key k.1 ↔ j = k := by
  constructor
  · intro he
    exact Subtype.ext (List.inj_on_of_nodup_map h.keys_nodup.1 j.2 k.2 he)
  · rintro rfl
    rfl

theorem key_ne_last (h : InOrder kinds key last keys) (k : KindOf kinds) : key k.1 ≠ last := by
  rintro rfl
  exact h.keys_nodup.2 (List.mem_map_of_mem k.2)

end InOrder

section Methods

variable {path : List Token} {ho : HandlersOutline} {v : VisitorOutline}
  (hw : Wired path kinds ho v) (fields : Fields ι)

include hw

/-- A registration method registers. -/
theorem visitorOf_fill (slot : Option (KindOf kinds)) (h : Handler ι) :
    ∃ r, v.registrations.lookup (registerOf slot) = some r ∧
      visitorOf kinds (r.fill h fields) = register (visitorOf kinds fields) (slot, h) := by
  cases slot with
  | some k =>
    obtain ⟨t, hr, -⟩ := (hw.kind k.1 k.2).registration
    refine ⟨_, hr, ?_⟩
    -- The other fields, that of the catch-all among them, keep what they hold.
    have hspecific : ∀ j : KindOf kinds,
        Registration.fill ⟨t, (KindNames.ofName k.1).slot⟩ h fields (KindNames.ofName j.1).slot =
          if j = k then some h else fields (KindNames.ofName j.1).slot :=
      fun j => if_congr (hw.slots.key_inj j k) rfl rfl
    have hcatchAll :
        Registration.fill ⟨t, (KindNames.ofName k.1).slot⟩ h fields "h_default" =
          fields "h_default" :=
      if_neg fun he => hw.slots.key_ne_last k he.symm
    unfold visitorOf
    rw [hcatchAll, funext hspecific]
    rfl
  | none =>
    obtain ⟨t, hr, -⟩ := hw.rest.registration
    refine ⟨_, hr, ?_⟩
    have hspecific : ∀ j : KindOf kinds,
        Registration.fill ⟨t, "h_default"⟩ h fields (KindNames.ofName j.1).slot =
          fields (KindNames.ofName j.1).slot :=
      fun j => if_neg (hw.slots.key_ne_last j)
    unfold visitorOf
    rw [funext hspecific]
    rfl

/-- The test of a field is the question whether a node would reach a handler. -/
theorem test_eq_hasHandlerFor (kind : Option (KindOf kinds)) :
    v.presence.test fields (variantOf kind) = (visitorOf kinds fields).hasHandlerFor kind := by
  cases kind with
  | some k =>
    have harm : v.presence.arms.lookup k.1 = _ := (hw.kind k.1 k.2).presence
    unfold Distinction.test variantOf
    rw [harm, hw.rest.presence_fallback]
    rfl
  | none =>
    unfold Distinction.test variantOf
    rw [hw.rest.presence, hw.rest.presence_fallback]
    rfl

/-- The call of a visit goes to the slot that the node is routed to. -/
theorem call_eq_route (kind : Option (KindOf kinds)) :
    v.dispatch.call fields (variantOf kind) =
      ((visitorOf kinds fields).route kind).map fun p => (callOf p.1, p.2) := by
  have hfallback : (fields "h_default").map ((⟨"h_default", "handle"⟩ : SlotCall), ·) =
      ((visitorOf kinds fields).catchAll.map ((none : Option (KindOf kinds)), ·)).map
        fun p => (callOf p.1, p.2) := by
    rw [Option.map_map]
    rfl
  cases kind with
  | some k =>
    have harm : v.dispatch.arms.lookup k.1 = _ := (hw.kind k.1 k.2).dispatch
    unfold Distinction.call variantOf Visitor.route
    rw [harm, hw.rest.dispatch_fallback]
    change Option.or ((fields (KindNames.ofName k.1).slot).map _) _ = _
    have hspecific : (visitorOf kinds fields).specific k = fields (KindNames.ofName k.1).slot := rfl
    -- An own field that holds nothing leaves the node to the catch-all, on both sides.
    dsimp only
    rw [hspecific]
    cases fields (KindNames.ofName k.1).slot with
    | some h => rfl
    | none => exact hfallback
  | none =>
    unfold Distinction.call variantOf Visitor.route
    rw [hw.rest.dispatch, hw.rest.dispatch_fallback]
    exact hfallback

/-! ## A sequence of registrations -/

/-- **Registrations one after the other** are those of the visitor that the fields stand for. -/
theorem registerAll_eq (registrations : List (Option (KindOf kinds) × Handler ι)) :
    ∃ filled,
      v.registerAll fields (registrations.map fun r => (registerOf r.1, r.2)) = some filled ∧
      visitorOf kinds filled = registrations.foldl register (visitorOf kinds fields) := by
  induction registrations generalizing fields with
  | nil => exact ⟨fields, rfl, rfl⟩
  | cons first rest ih =>
    obtain ⟨r, hr, hfill⟩ := visitorOf_fill hw fields first.1 first.2
    obtain ⟨filled, hrest, hvisitor⟩ := ih (r.fill first.2 fields)
    refine ⟨filled, ?_, ?_⟩
    · rw [List.map_cons]
      unfold VisitorOutline.registerAll
      rw [hr]
      exact hrest
    · rw [hvisitor, hfill]
      rfl

end Methods

/-- **The emitted visitor routes nodes.** For every sequence of registrations for kinds of the
catalog and for all nodes, the methods read off the tokens of the visitor file fill the fields, and
then a node of each kind, or of none, is answered and handed on as by the visitor after these
registrations. -/
theorem emitted_visitor_routes {c : Catalog} {moduleId astPath : String} {artifacts : Artifacts}
    (h : c.generate moduleId astPath = .ok artifacts)
    (registrations : List (Option (KindOf c.kinds) × Handler ι)) :
    ∃ v fields, VisitorOutline.read? artifacts.visitor.tokens = some v ∧
      v.registerAll (fun _ => none) (registrations.map fun r => (registerOf r.1, r.2)) =
        some fields ∧
      ∀ kind : Option (KindOf c.kinds),
        v.presence.test fields (variantOf kind) =
          (registrations.foldl register .new).hasHandlerFor kind ∧
        v.dispatch.call fields (variantOf kind) =
          ((registrations.foldl register .new).route kind).map fun p => (callOf p.1, p.2) := by
  obtain ⟨hk, path, own, -, hown, -, hv⟩ := outlines_of_generate h
  have hw := wired_ofKinds hown hk
  obtain ⟨fields, hfields, hvisitor⟩ := registerAll_eq hw (fun _ => none) registrations
  refine ⟨_, fields, hv, hfields, fun kind => ?_⟩
  have hnew : visitorOf c.kinds (fun _ => none : Fields ι) = .new := rfl
  rw [hnew] at hvisitor
  rw [← hvisitor]
  exact ⟨test_eq_hasHandlerFor hw fields kind, call_eq_route hw fields kind⟩

end DispatchLayer.Emission
