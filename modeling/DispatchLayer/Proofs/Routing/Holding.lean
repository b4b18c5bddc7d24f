import DispatchLayer.Proofs.Routing.Dispatch

/-!
# Visits while a handler is held

The state of a shared handler can be held from outside while a node is visited. Whether the visit
then breaks off is settled by where the node goes (`RoutedTo`), not by where the handler is
registered: a held handler in another slot is in nobody's way. A visit that breaks off has called
nothing and leaves the world as it was, so whatever is done afterwards goes as if the visit had not
been made (`held_visit_breaks_off_iff`). What can be seen of a sequence of operations is told by
their `Response`s.
-/

namespace DispatchLayer.Routing

variable {κ ι ν σ : Type}

/-! ## Where a node goes -/

/-- **Where a node goes** after a sequence of operations: through the slot of its kind to the handler
registered last for the kind, and if there is none, to the catch-all registered last. -/
inductive RoutedTo (kindOf : ν → Option κ) (ops : List (Op κ ι ν)) (node : ν) :
    Option κ → Handler ι → Prop
  | specific {kind : κ} {h : Handler ι} (hk : kindOf node = some kind)
      (hl : IsLatest ops (some kind) h) : RoutedTo kindOf ops node (some kind) h
  | catchAll {h : Handler ι}
      (hk : ∀ kind g, kindOf node = some kind → ¬ IsLatest ops (some kind) g)
      (hl : IsLatest ops none h) : RoutedTo kindOf ops node none h

/-- The slots of a visitor lead a node where the operations say. -/
theorem Remembers.route_eq_some_iff {kindOf : ν → Option κ} {ops : List (Op κ ι ν)}
    {w : World κ ι σ} (hr : Remembers ops w) {node : ν} {slot : Option κ} {h : Handler ι} :
    w.visitor.route (kindOf node) = some (slot, h) ↔ RoutedTo kindOf ops node slot h := by
  -- Both sides ask first whether the slot of the kind is filled.
  by_cases hs : ∃ kind g, kindOf node = some kind ∧ IsLatest ops (some kind) g
  · obtain ⟨kind, g, hk, hl⟩ := hs
    have hslot := (hr.slots (some kind) g).2 hl
    rw [route_of_specific hk hslot]
    constructor
    · intro heq
      cases heq
      exact .specific hk hl
    · rintro (⟨hk', hl'⟩ | ⟨hnone, -⟩)
      · cases hk.symm.trans hk'
        have hslot' := (hr.slots _ _).2 hl'
        rw [hslot] at hslot'
        cases hslot'
        rfl
      · exact absurd hl (hnone kind g hk)
  · have hnone : ∀ kind g, kindOf node = some kind → ¬ IsLatest ops (some kind) g :=
      fun kind g hk hl => hs ⟨kind, g, hk, hl⟩
    rw [route_of_no_specific fun k hk => hr.slot_eq_none fun g => hnone k g hk]
    constructor
    · intro heq
      obtain ⟨h', hslot, hpair⟩ := Option.map_eq_some_iff.1 heq
      cases hpair
      exact .catchAll hnone ((hr.slots _ _).1 hslot)
    · rintro (⟨hk, hl⟩ | ⟨-, hl⟩)
      · exact absurd hl (hnone _ _ hk)
      · rw [(hr.slots _ _).2 hl]
        rfl

/-! ## One visit -/

section Visits

variable [DecidableEq ι] (b : Behaviour κ ι ν σ) (kindOf : ν → Option κ) {w : World κ ι σ}
  {name : ι} {node : ν}

/-- A visit that reaches the handler held breaks off, and nothing has changed. -/
theorem World.visitHolding_of_route {slot : Option κ}
    (hr : w.visitor.route (kindOf node) = some (slot, .shared name)) :
    w.visitHolding b kindOf name node = ⟨.error .held, [], w⟩ := by
  unfold World.visitHolding World.visit
  rw [hr]
  simp [World.call, World.isHeld]

/-- A visit that does not reach the handler held goes as if nothing were held. -/
theorem World.visitHolding_of_no_route (hheld : w.held = none)
    (hr : ∀ slot, w.visitor.route (kindOf node) ≠ some (slot, .shared name)) :
    w.visitHolding b kindOf name node = w.visit b kindOf node := by
  obtain ⟨visitor, states, held, nextSerial⟩ := w
  cases hheld
  unfold World.visitHolding World.visit
  dsimp only at hr ⊢
  cases hroute : visitor.route (kindOf node) with
  | none => rfl
  | some target =>
    obtain ⟨slot, h⟩ := target
    -- Only the call of a shared handler asks what is held.
    cases h with
    | owned other serial => rfl
    | shared other =>
      have hne : name ≠ other := by
        rintro rfl
        exact hr slot hroute
      simp [World.call, World.isHeld, hne]

/-- With nothing held no visit breaks off. -/
theorem World.visit_result_ne (hheld : w.held = none) :
    (w.visit b kindOf node).result ≠ .error .held := by
  intro h
  cases hr : w.visitor.route (kindOf node) with
  | none =>
    rw [(World.visit_of_no_route b kindOf hr).result] at h
    cases h
  | some target =>
    rw [(World.visit_of_route b kindOf hheld hr).result] at h
    cases h

end Visits

/-! ## What can be seen -/

/-- What can be seen of an operation: the result, if it is a visit, and the calls made. -/
structure Response (κ ι ν : Type) where
  result? : Option (Except VisitError Continuation)
  calls : List (Call κ ι ν)

section Responses

variable [DecidableEq κ] [DecidableEq ι] (b : Behaviour κ ι ν σ) (kindOf : ν → Option κ)

/-- What can be seen of a visit. -/
def Visit.response (v : Visit κ ι ν σ) : Response κ ι ν := ⟨some v.result, v.calls⟩

/-- What can be seen of one operation. -/
def World.response (w : World κ ι σ) : Op κ ι ν → Response κ ι ν
  | .visit node => (w.visit b kindOf node).response
  | .visitHolding name node => (w.visitHolding b kindOf name node).response
  | _ => ⟨none, []⟩

/-- What can be seen of a sequence of operations, one after the other. -/
def World.responses (w : World κ ι σ) : List (Op κ ι ν) → List (Response κ ι ν)
  | [] => []
  | op :: ops => w.response b kindOf op :: (w.step b kindOf op).responses ops

theorem World.responses_append (w : World κ ι σ) (ops more : List (Op κ ι ν)) :
    w.responses b kindOf (ops ++ more) =
      w.responses b kindOf ops ++ (ops.foldl (World.step b kindOf) w).responses b kindOf more := by
  induction ops generalizing w with
  | nil => rfl
  | cons op ops ih =>
    rw [List.cons_append, World.responses, World.responses, ih]
    rfl

@[simp] theorem World.length_responses (w : World κ ι σ) (ops : List (Op κ ι ν)) :
    (w.responses b kindOf ops).length = ops.length := by
  induction ops generalizing w with
  | nil => rfl
  | cons op ops ih =>
    rw [World.responses, List.length_cons, List.length_cons, ih]

/-- **An operation without effect can be left out.** What comes after it is answered as without it,
and leaves the same world. -/
theorem World.leave_out {ops : List (Op κ ι ν)} {op : Op κ ι ν}
    (h : (World.after b kindOf ops).step b kindOf op = World.after b kindOf ops)
    (more : List (Op κ ι ν)) :
    World.after b kindOf (ops ++ op :: more) = World.after b kindOf (ops ++ more) ∧
      ((World.start b).responses b kindOf (ops ++ op :: more)).eraseIdx ops.length =
        (World.start b).responses b kindOf (ops ++ more) := by
  constructor
  · rw [World.after_append, World.after_append, List.foldl_cons, h]
  · have hlater : (World.after b kindOf ops).responses b kindOf (op :: more) =
        (World.after b kindOf ops).response b kindOf op ::
          (World.after b kindOf ops).responses b kindOf more := by
      rw [World.responses, h]
    rw [World.responses_append, World.responses_append]
    change (_ ++ (World.after b kindOf ops).responses b kindOf (op :: more)).eraseIdx _ =
      _ ++ (World.after b kindOf ops).responses b kindOf more
    -- The response to the operation is left out; the later ones start from the same world.
    rw [hlater, List.eraseIdx_append_of_length_le (by simp)]
    simp

/-- **A visit breaks off exactly if it is routed to the handler held.** After any operations, for
every shared handler and every node: a visit with the state of the handler held breaks off exactly if
the node goes to that handler, through whatever slot. It has then called nothing, and no state and no
slot has changed; whatever operations follow, they leave what they would have left without the visit,
and all of them are answered as they would have been. In all other cases the visit is what it would
be with nothing held. -/
theorem held_visit_breaks_off_iff (ops : List (Op κ ι ν)) (name : ι) (node : ν) :
    let w := World.after b kindOf ops
    let v := w.visitHolding b kindOf name node
    let seen := (World.start b).responses b kindOf
    (v.result = .error .held ↔ ∃ slot, RoutedTo kindOf ops node slot (.shared name)) ∧
    ((∃ slot, RoutedTo kindOf ops node slot (.shared name)) →
      v.calls = [] ∧ v.world.states = w.states ∧ v.world.visitor = w.visitor ∧
      ∀ more, World.after b kindOf (ops ++ .visitHolding name node :: more) =
          World.after b kindOf (ops ++ more) ∧
        (seen (ops ++ .visitHolding name node :: more)).eraseIdx ops.length = seen (ops ++ more)) ∧
    ((¬ ∃ slot, RoutedTo kindOf ops node slot (.shared name)) → v = w.visit b kindOf node) := by
  intro w v seen
  have hr : Remembers ops w := remembers_after b kindOf ops
  have hroute : (∃ slot, w.visitor.route (kindOf node) = some (slot, .shared name)) ↔
      ∃ slot, RoutedTo kindOf ops node slot (.shared name) :=
    exists_congr fun slot => hr.route_eq_some_iff
  have broken : (∃ slot, RoutedTo kindOf ops node slot (.shared name)) →
      v = ⟨.error .held, [], w⟩ := by
    intro h
    obtain ⟨slot, hs⟩ := hroute.2 h
    exact World.visitHolding_of_route b kindOf hs
  have through : (¬ ∃ slot, RoutedTo kindOf ops node slot (.shared name)) →
      v = w.visit b kindOf node := by
    intro h
    rw [← hroute, not_exists] at h
    exact World.visitHolding_of_no_route b kindOf hr.held h
  refine ⟨⟨fun hv => ?_, fun h => by rw [broken h]⟩, fun h => ?_, through⟩
  · -- With nothing held a visit does not break off.
    by_contra hn
    rw [through hn] at hv
    exact World.visit_result_ne b kindOf hr.held hv
  · have hstep : w.step b kindOf (.visitHolding name node) = w := congrArg Visit.world (broken h)
    rw [broken h]
    exact ⟨rfl, rfl, rfl, World.leave_out b kindOf hstep⟩

end Responses

open Sample in
/-- A shared handler for identifiers that is also the catch-all, hidden behind another handler for
calls: held, it stops the visit of an identifier, and not the visit of a call. -/
theorem held_visit_breaks_off_iff_hidden :
    let b := cycling fun _ => [true, false]
    let ops : List (Op Kind String Node) := [.register (some .ident) true "s",
      .register none true "s", .register (some .callExpr) false "c", .visit (.ident "x")]
    let w := World.after b Node.kind? ops
    (w.visitHolding b Node.kind? "s" (.ident "y")).result = .error .held ∧
      w.visitHolding b Node.kind? "s" (.call "f" []) = w.visit b Node.kind? (.call "f" []) ∧
      ((World.start b).responses b Node.kind?
        (ops ++ .visitHolding "s" (.ident "y") :: [.visit (.ident "y")])).eraseIdx 4 =
          (World.start b).responses b Node.kind? (ops ++ [.visit (.ident "y")]) := by
  intro b ops w
  obtain ⟨hbreaks, hnothing, -⟩ := held_visit_breaks_off_iff b Node.kind? ops "s" (.ident "y")
  obtain ⟨-, -, hthrough⟩ := held_visit_breaks_off_iff b Node.kind? ops "s" (.call "f" [])
  have hident : RoutedTo Node.kind? ops (.ident "y") (some .ident) (.shared "s") :=
    .specific rfl ⟨[], true, "s", _, rfl, by simp [Op.Supersedes], rfl⟩
  have hcall : ¬ ∃ slot, RoutedTo Node.kind? ops (.call "f" []) slot (.shared "s") := by
    rintro ⟨slot, hs⟩
    have hroute := (remembers_after b Node.kind? ops).route_eq_some_iff.2 hs
    -- The route is there to be seen, and it leads to the other handler.
    have hother : w.visitor.route (Node.kind? (.call "f" [])) =
        some (some .callExpr, .owned "c" 2) := rfl
    rw [hother] at hroute
    cases hroute
  exact ⟨hbreaks.2 ⟨_, hident⟩, hthrough hcall, ((hnothing ⟨_, hident⟩).2.2.2 _).2⟩

end DispatchLayer.Routing
