import DispatchLayer.Proofs.Routing.Dispatch

/-!
# Whether a visit would call a handler

A visitor can be asked whether a visit of a node would call a handler. The answer is worked out from
the slots on its own, and it is right after all operations (`presence_iff_call`). Visits do not
change it, and once it is yes for a node it stays so until the visitor is made anew: registrations
fill slots and empty none (`World.FillsAtLeast`).
-/

namespace DispatchLayer.Routing

variable {κ ι ν σ : Type}

/-! ## Presence and routes -/

/-- A handler is there exactly if there is a route. -/
theorem hasHandlerFor_eq_isSome_route (v : Visitor κ ι) (kind : Option κ) :
    v.hasHandlerFor kind = (v.route kind).isSome := by
  unfold Visitor.hasHandlerFor Visitor.route
  cases kind with
  | none => simp
  | some k =>
    cases hs : v.specific k with
    | none => simp [hs]
    | some h => simp [hs]

/-- A visit calls something exactly if there is a route. -/
theorem World.calls_ne_nil_iff [DecidableEq ι] (b : Behaviour κ ι ν σ) (kindOf : ν → Option κ)
    {w : World κ ι σ} (hheld : w.held = none) (node : ν) :
    (w.visit b kindOf node).calls ≠ [] ↔ (w.visitor.route (kindOf node)).isSome = true := by
  cases hr : w.visitor.route (kindOf node) with
  | none =>
    rw [(World.visit_of_no_route b kindOf hr).calls]
    simp
  | some target =>
    rw [(World.visit_of_route b kindOf hheld hr).calls]
    simp

/-! ## Slots that stay filled -/

/-- What is filled in one visitor is filled in the other, if perhaps with another handler. -/
def Visitor.FillsAtLeast (v' v : Visitor κ ι) : Prop :=
  ∀ slot, (v.slot slot).isSome = true → (v'.slot slot).isSome = true

theorem Visitor.FillsAtLeast.hasHandlerFor {v v' : Visitor κ ι} (h : v'.FillsAtLeast v)
    {kind : Option κ} (hv : v.hasHandlerFor kind = true) : v'.hasHandlerFor kind = true := by
  unfold Visitor.hasHandlerFor at hv ⊢
  rw [Bool.or_eq_true] at hv ⊢
  rcases hv with hv | hv
  · left
    cases kind with
    | none => cases hv
    | some k => exact h (some k) hv
  · right
    exact h none hv

section Steps

variable [DecidableEq κ] [DecidableEq ι] (b : Behaviour κ ι ν σ) (kindOf : ν → Option κ)

/-- **Only a new visitor empties slots.** -/
theorem World.step_fillsAtLeast (w : World κ ι σ) {op : Op κ ι ν} (hop : op ≠ .renew) :
    (w.step b kindOf op).visitor.FillsAtLeast w.visitor := by
  intro slot hs
  cases op with
  | renew => exact absurd rfl hop
  | register other shared name =>
    show ((w.register other shared name).visitor.slot slot).isSome = true
    rw [slot_register]
    split
    · rfl
    · exact hs
  | visit node =>
    rw [(w.step_sameSlots b kindOf rfl).visitor]
    exact hs
  | visitHolding name node =>
    rw [(w.step_sameSlots b kindOf rfl).visitor]
    exact hs

theorem World.foldl_fillsAtLeast (more : List (Op κ ι ν)) (w : World κ ι σ) (hmore : .renew ∉ more) :
    (more.foldl (World.step b kindOf) w).visitor.FillsAtLeast w.visitor := by
  -- One operation at a time, from a world that has changed with those before.
  induction more generalizing w with
  | nil =>
    intro slot hs
    exact hs
  | cons op more ih =>
    intro slot hs
    rw [List.mem_cons, not_or] at hmore
    apply ih (w.step b kindOf op) hmore.2
    apply w.step_fillsAtLeast b kindOf (Ne.symm hmore.1)
    exact hs

/-- **A visitor knows whether it would call a handler.** After any operations, and for every node: the
answer is yes exactly if a visit of the node would call something; no visit changes it, whatever the
handlers do, and no visit with a handler's state held; and once it is yes it stays so, until the
visitor is made anew. -/
theorem presence_iff_call (ops : List (Op κ ι ν)) :
    let w := World.after b kindOf ops
    (∀ node, w.visitor.hasHandlerFor (kindOf node) = true ↔
      (w.visit b kindOf node).calls ≠ []) ∧
    (∀ (b' : Behaviour κ ι ν σ) (op : Op κ ι ν), op.isVisit = true →
      ∀ node, (w.step b' kindOf op).visitor.hasHandlerFor (kindOf node) =
        w.visitor.hasHandlerFor (kindOf node)) ∧
    ∀ node, w.visitor.hasHandlerFor (kindOf node) = true →
      ∀ more, .renew ∉ more →
        (World.after b kindOf (ops ++ more)).visitor.hasHandlerFor (kindOf node) = true := by
  intro w
  have hr : Remembers ops w := remembers_after b kindOf ops
  refine ⟨fun node => ?_, fun b' op hop node => ?_, fun node hnode more hmore => ?_⟩
  · rw [hasHandlerFor_eq_isSome_route, World.calls_ne_nil_iff b kindOf hr.held]
  · rw [(w.step_sameSlots b' kindOf hop).visitor]
  · rw [World.after_append]
    apply Visitor.FillsAtLeast.hasHandlerFor _ hnode
    exact World.foldl_fillsAtLeast b kindOf more w hmore

end Steps

open Sample in
/-- A handler for identifiers is replaced, and visited in between. -/
theorem presence_iff_call_replaced :
    let b := cycling fun _ => [true, false]
    let ops : List (Op Kind String Node) := [.register (some .ident) false "a"]
    let more : List (Op Kind String Node) :=
      [.visit (.ident "x"), .visitHolding "s" .other, .register (some .ident) true "s"]
    (World.after b Node.kind? ops).visitor.hasHandlerFor (Node.kind? (.ident "y")) = true ∧
      (World.after b Node.kind? (ops ++ more)).visitor.hasHandlerFor (Node.kind? (.ident "y")) =
        true := by
  intro b ops more
  obtain ⟨-, -, hstays⟩ := presence_iff_call b Node.kind? ops
  exact ⟨rfl, hstays (.ident "y") rfl more (by simp [more])⟩

end DispatchLayer.Routing
