import DispatchLayer.Proofs.Routing.History
import DispatchLayer.Routing.Sample

/-!
# A visit is routed by the latest registrations

Whatever has been done with a visitor, the next visit calls the handler registered last for the kind
of the node; if there is none, the catch-all registered last; and if there is none either, nothing
(`visit_routed_by_latest`). The handler called is called once, in the state the operations before
have left it in, and its answer is the answer of the visit.
-/

namespace DispatchLayer.Routing

variable {κ ι ν σ : Type}

/-- The visit called one handler, once, with the node; its answer is that of the handler, and no
other handler's state has changed. -/
structure Visit.CallsOnce (v : Visit κ ι ν σ) (b : Behaviour κ ι ν σ) (w : World κ ι σ)
    (slot : Option κ) (h : Handler ι) (node : ν) : Prop where
  calls : v.calls = [⟨h, slot, node⟩]
  result : v.result =
    .ok (if (b.react h.name slot node (w.states h)).1 = true then .descend else .stop)
  state : v.world.states h = (b.react h.name slot node (w.states h)).2
  other_states : ∀ other, other ≠ h → v.world.states other = w.states other

/-- The visit called nothing, and traversal goes on. -/
structure Visit.CallsNone (v : Visit κ ι ν σ) (w : World κ ι σ) : Prop where
  calls : v.calls = []
  result : v.result = .ok .descend
  world : v.world = w

/-! ## Routes -/

section Routes

variable {v : Visitor κ ι} {kind : Option κ}

/-- A node with a handler of its kind goes there. -/
theorem route_of_specific {k : κ} {h : Handler ι} (hk : kind = some k)
    (hs : v.slot (some k) = some h) : v.route kind = some (some k, h) := by
  have hs' : v.specific k = some h := hs
  rw [hk, Visitor.route, hs']

/-- Any other node goes where the catch-all's slot says. -/
theorem route_of_no_specific (hk : ∀ k, kind = some k → v.slot (some k) = none) :
    v.route kind = (v.slot none).map (none, ·) := by
  cases kind with
  | none => rfl
  | some k =>
    have hs : v.specific k = none := hk k rfl
    rw [Visitor.route, hs]
    rfl

/-- A route leads to what its slot holds. -/
theorem slot_of_route {slot : Option κ} {h : Handler ι} (hr : v.route kind = some (slot, h)) :
    v.slot slot = some h := by
  have catchAll : v.catchAll.map (none, ·) = some (slot, h) → v.slot slot = some h := by
    intro hm
    obtain ⟨h', hc, heq⟩ := Option.map_eq_some_iff.1 hm
    cases heq
    exact hc
  cases kind with
  | none => exact catchAll hr
  | some k =>
    rw [Visitor.route] at hr
    cases hs : v.specific k with
    | none =>
      rw [hs] at hr
      exact catchAll hr
    | some h' =>
      rw [hs] at hr
      cases hr
      exact hs

end Routes

/-! ## Calls -/

theorem ofBool_eq_ite (answer : Bool) :
    Continuation.ofBool answer = if answer = true then .descend else .stop := by
  cases answer with
  | true => rfl
  | false => rfl

section Visits

variable [DecidableEq ι] (b : Behaviour κ ι ν σ) (kindOf : ν → Option κ) {w : World κ ι σ}
  {node : ν}

/-- A call goes through if no state is held. -/
theorem World.call_callsOnce (hheld : w.held = none) (slot : Option κ) (h : Handler ι) (node : ν) :
    (w.call b slot h node).CallsOnce b w slot h node := by
  have hfree : w.isHeld h = false := by
    cases h with
    | shared name => simp [World.isHeld, hheld]
    | owned name serial => rfl
  unfold World.call
  rw [hfree]
  exact {
    calls := rfl
    result := congrArg Except.ok (ofBool_eq_ite _)
    state := if_pos rfl
    other_states := fun _ hne => if_neg hne }

/-- A visit calls what its route leads to. -/
theorem World.visit_of_route {slot : Option κ} {h : Handler ι} (hheld : w.held = none)
    (hr : w.visitor.route (kindOf node) = some (slot, h)) :
    (w.visit b kindOf node).CallsOnce b w slot h node := by
  unfold World.visit
  rw [hr]
  exact World.call_callsOnce b hheld slot h node

/-- A visit without route calls nothing. -/
theorem World.visit_of_no_route (hr : w.visitor.route (kindOf node) = none) :
    (w.visit b kindOf node).CallsNone w := by
  unfold World.visit
  rw [hr]
  exact ⟨rfl, rfl, rfl⟩

/-- What a visit calls is in the slot it is called through. -/
theorem World.slot_of_mem_calls (hheld : w.held = none) :
    ∀ call ∈ (w.visit b kindOf node).calls, w.visitor.slot call.slot = some call.handler := by
  intro call hm
  cases hr : w.visitor.route (kindOf node) with
  | none =>
    rw [(World.visit_of_no_route b kindOf hr).calls] at hm
    exact absurd hm List.not_mem_nil
  | some target =>
    rw [(World.visit_of_route b kindOf hheld hr).calls, List.mem_singleton] at hm
    rw [hm]
    exact slot_of_route hr

end Visits

/-! ## Visits after any operations -/

theorem Remembers.slot_eq_none {ops : List (Op κ ι ν)} {w : World κ ι σ} (hr : Remembers ops w)
    {slot : Option κ} (h : ∀ g, ¬ IsLatest ops slot g) : w.visitor.slot slot = none := by
  cases hs : w.visitor.slot slot with
  | none => rfl
  | some g => exact absurd ((hr.slots slot g).1 hs) (h g)

/-- **A visit is routed by the latest registrations.** After any operations, a node is handed to the
handler registered last for its kind; without one, to the catch-all registered last; and without
that, to none. Whatever is called was registered last in its slot, and a handler of a registration's
own is not called once the registration is superseded. -/
theorem visit_routed_by_latest [DecidableEq κ] [DecidableEq ι] (b : Behaviour κ ι ν σ)
    (kindOf : ν → Option κ) (ops : List (Op κ ι ν)) (node : ν) :
    let w := World.after b kindOf ops
    let v := w.visit b kindOf node
    (∀ kind h, kindOf node = some kind → IsLatest ops (some kind) h →
      v.CallsOnce b w (some kind) h node) ∧
    ((∀ kind g, kindOf node = some kind → ¬ IsLatest ops (some kind) g) →
      (∀ h, IsLatest ops none h → v.CallsOnce b w none h node) ∧
      ((∀ h, ¬ IsLatest ops none h) → v.CallsNone w)) ∧
    (∀ call ∈ v.calls, IsLatest ops call.slot call.handler) ∧
    ∀ before slot name after, ops = before ++ .register slot false name :: after →
      (∃ op ∈ after, op.Supersedes slot) →
      ∀ call ∈ v.calls, call.handler ≠ .owned name (registrations before) := by
  intro w v
  have hr : Remembers ops w := remembers_after b kindOf ops
  have hcalls : ∀ call ∈ v.calls, IsLatest ops call.slot call.handler := by
    intro call hm
    exact (hr.slots _ _).1 (World.slot_of_mem_calls b kindOf hr.held call hm)
  -- Routes look at the slots, and the slots hold the latest registrations.
  refine ⟨?_, ?_, hcalls, ?_⟩
  · intro kind h hk hl
    exact World.visit_of_route b kindOf hr.held (route_of_specific hk ((hr.slots _ _).2 hl))
  · intro hspecific
    have hroute := route_of_no_specific (v := w.visitor) fun k hk =>
      hr.slot_eq_none fun g => hspecific k g hk
    constructor
    · intro h hl
      rw [(hr.slots none h).2 hl] at hroute
      exact World.visit_of_route b kindOf hr.held hroute
    · intro hnone
      rw [hr.slot_eq_none hnone] at hroute
      exact World.visit_of_no_route b kindOf hroute
  -- What is called is the latest of its slot, and what was superseded is the latest of none.
  · rintro before slot name after rfl ⟨op, hm, hop⟩ call hcall heq
    have hl := hcalls call hcall
    rw [heq] at hl
    exact not_isLatest_of_superseded hm hop call.slot hl

open Sample in
/-- A handler for identifiers is replaced, with a visit in between that it answers. -/
theorem visit_routed_by_latest_replaced :
    let b := cycling fun _ => [true, false]
    let ops : List (Op Kind String Node) := [.register (some .ident) false "a",
      .visit (.ident "x"), .register (some .ident) false "b"]
    let v := (World.after b Node.kind? ops).visit b Node.kind? (.ident "y")
    v.calls = [⟨.owned "b" 1, some .ident, .ident "y"⟩] ∧
      ∀ call ∈ v.calls, call.handler ≠ .owned "a" 0 := by
  intro b ops v
  obtain ⟨hspecific, -, -, hsuperseded⟩ :=
    visit_routed_by_latest b Node.kind? ops (.ident "y")
  constructor
  · have hl : IsLatest ops (some .ident) (.owned "b" 1) :=
      ⟨[.register (some .ident) false "a", .visit (.ident "x")], false, "b", [], rfl, by simp, rfl⟩
    exact (hspecific .ident _ rfl hl).calls
  · refine hsuperseded [] (some .ident) "a" _ rfl ⟨.register (some .ident) false "b", ?_, rfl⟩
    simp

end DispatchLayer.Routing
