import DispatchLayer.Proofs.Routing.Dispatch

/-!
# How the states of handlers come about

Which handler a visit reaches is settled by the operations before it, whatever the states are
(`routedCall?`). So the calls of a whole history can be listed without a look at any state
(`routedCalls`). The state of a handler is then what its own calls on that list have made of its
first state, one after the other (`states_follow_routed_calls`): a shared handler is one state for
all slots and all visitors it has been in, and a handler of a registration's own is called through
the slot of that registration only.
-/

namespace DispatchLayer.Routing

variable {κ ι ν σ : Type}

/-! ## Routes read off a history

Histories are taken with the last operation first here, so that what came before an operation is the
rest of the list. -/

section Routes

variable [DecidableEq κ] [DecidableEq ι] (kindOf : ν → Option κ)

/-- What a slot holds after a history. -/
def latestIn : (past : List (Op κ ι ν)) → (slot : Option κ) → Option (Handler ι)
  | [], _ => none
  | .renew :: _, _ => none
  | .register other shared name :: past, slot =>
    if slot = other then some (.registered (registrations past) shared name) else latestIn past slot
  | .visit _ :: past, slot => latestIn past slot
  | .visitHolding _ _ :: past, slot => latestIn past slot

/-- The slot and the handler a node goes to after a history: the slot of its kind if that holds a
handler, else the catch-all's. -/
def routeIn (past : List (Op κ ι ν)) (node : ν) : Option (Option κ × Handler ι) :=
  ((kindOf node).bind fun kind => (latestIn past (some kind)).map (some kind, ·)).or
    ((latestIn past none).map (none, ·))

/-- The call an operation makes after a history. A visit that reaches the handler whose state is held
breaks off before the call. -/
def routedCall? (past : List (Op κ ι ν)) : Op κ ι ν → Option (Call κ ι ν)
  | .visit node => (routeIn kindOf past node).map fun target => ⟨target.2, target.1, node⟩
  | .visitHolding name node =>
    ((routeIn kindOf past node).filter fun target => target.2 ≠ .shared name).map
      fun target => ⟨target.2, target.1, node⟩
  | _ => none

/-- The calls of a history, the first call first. -/
def routedCallsIn : (past : List (Op κ ι ν)) → List (Call κ ι ν)
  | [] => []
  | op :: past => routedCallsIn past ++ (routedCall? kindOf past op).toList

/-- The calls of a sequence of operations, in order. -/
def routedCalls (ops : List (Op κ ι ν)) : List (Call κ ι ν) := routedCallsIn kindOf ops.reverse

theorem routedCalls_concat (ops : List (Op κ ι ν)) (op : Op κ ι ν) :
    routedCalls kindOf (ops ++ [op]) =
      routedCalls kindOf ops ++ (routedCall? kindOf ops.reverse op).toList := by
  unfold routedCalls
  rw [List.reverse_concat]
  rfl

omit [DecidableEq ι] in
/-- What a slot holds is the latest registration in it. -/
theorem latestIn_eq_some_iff {past : List (Op κ ι ν)} {slot : Option κ} {h : Handler ι} :
    latestIn past slot = some h ↔ IsLatest past.reverse slot h := by
  induction past with
  | nil => exact iff_of_false (by simp [latestIn]) not_isLatest_nil
  | cons op past ih =>
    have hcount : registrations past.reverse = registrations past := by
      unfold registrations
      rw [List.countP_reverse]
    rw [List.reverse_cons, isLatest_concat_iff, hcount]
    cases op with
    | renew => simp [latestIn, Op.Supersedes]
    | register other shared name =>
      by_cases hs : slot = other
      · subst hs
        simp [latestIn, Op.Supersedes, eq_comm]
      · have hs' : other ≠ slot := Ne.symm hs
        simp [latestIn, Op.Supersedes, hs, hs', ih]
    | visit node => simp [latestIn, Op.Supersedes, ih]
    | visitHolding name node => simp [latestIn, Op.Supersedes, ih]

/-! ## Routes of a visitor that remembers its history -/

omit [DecidableEq ι] in
theorem Remembers.slot_eq_latestIn {ops : List (Op κ ι ν)} {w : World κ ι σ} (hr : Remembers ops w)
    (slot : Option κ) : w.visitor.slot slot = latestIn ops.reverse slot := by
  apply Option.ext
  intro h
  rw [hr.slots, latestIn_eq_some_iff, List.reverse_reverse]

omit [DecidableEq ι] in
theorem Remembers.route_eq_routeIn {ops : List (Op κ ι ν)} {w : World κ ι σ} (hr : Remembers ops w)
    (node : ν) : w.visitor.route (kindOf node) = routeIn kindOf ops.reverse node := by
  unfold routeIn
  rw [← hr.slot_eq_latestIn]
  cases kindOf node with
  | none => rfl
  | some kind =>
    rw [Option.bind_some, ← hr.slot_eq_latestIn]
    cases hs : w.visitor.slot (some kind) with
    | none => exact route_of_no_specific fun k hk => Option.some.inj hk ▸ hs
    | some h => exact route_of_specific rfl hs

end Routes

/-! ## Calls and states -/

section Calls

variable [DecidableEq ι] (b : Behaviour κ ι ν σ) (kindOf : ν → Option κ)

/-- The state of a handler after a call of it. -/
def Behaviour.update (h : Handler ι) (s : σ) (call : Call κ ι ν) : σ :=
  (b.react h.name call.slot call.node s).2

/-- The calls to a handler among others. -/
def callsTo (h : Handler ι) (calls : List (Call κ ι ν)) : List (Call κ ι ν) :=
  calls.filter (·.handler = h)

/-- From one world to the other this call is made, or none: only the state of the handler called
changes, by its answer to the call. -/
structure World.Makes (w : World κ ι σ) (call? : Option (Call κ ι ν)) (calls : List (Call κ ι ν))
    (after : World κ ι σ) : Prop where
  calls : calls = call?.toList
  states : ∀ h, after.states h = (callsTo h call?.toList).foldl (b.update h) (w.states h)

theorem World.makes_none {w w' : World κ ι σ} (h : w'.states = w.states) :
    w.Makes b (none : Option (Call κ ι ν)) [] w' where
  calls := rfl
  states := by
    intro other
    rw [h]
    rfl

theorem World.makes_call {w : World κ ι σ} {h : Handler ι} (hfree : w.isHeld h = false)
    (slot : Option κ) (node : ν) :
    w.Makes b (some ⟨h, slot, node⟩) (w.call b slot h node).calls (w.call b slot h node).world := by
  unfold World.call
  rw [hfree]
  refine ⟨rfl, fun other => ?_⟩
  by_cases ho : other = h
  · subst ho
    simp [callsTo, Behaviour.update]
  · have ho' : h ≠ other := Ne.symm ho
    simp [callsTo, ho, ho']

/-- A visit calls what its route leads to, unless that is held. -/
theorem World.makes_visit (w : World κ ι σ) (node : ν) :
    w.Makes b (((w.visitor.route (kindOf node)).filter fun target => !w.isHeld target.2).map
        fun target => ⟨target.2, target.1, node⟩)
      (w.visit b kindOf node).calls (w.visit b kindOf node).world := by
  unfold World.visit
  cases w.visitor.route (kindOf node) with
  | none => exact World.makes_none b rfl
  | some target =>
    obtain ⟨slot, h⟩ := target
    cases hheld : w.isHeld h with
    | false =>
      simp only [Option.filter_some, hheld, Bool.not_false, if_true, Option.map_some]
      exact World.makes_call b hheld slot node
    | true =>
      simp only [Option.filter_some, hheld, Bool.not_true, Bool.false_eq_true, if_false,
        Option.map_none]
      unfold World.call
      rw [hheld]
      exact World.makes_none b rfl

variable [DecidableEq κ]

/-- The calls that an operation makes. -/
def World.callsOf (w : World κ ι σ) : Op κ ι ν → List (Call κ ι ν)
  | .visit node => (w.visit b kindOf node).calls
  | .visitHolding name node => (w.visitHolding b kindOf name node).calls
  | _ => []

/-- The calls that a sequence of operations makes, in order. -/
def World.trace (w : World κ ι σ) : List (Op κ ι ν) → List (Call κ ι ν)
  | [] => []
  | op :: ops => w.callsOf b kindOf op ++ (w.step b kindOf op).trace ops

theorem World.trace_concat (w : World κ ι σ) (ops : List (Op κ ι ν)) (op : Op κ ι ν) :
    w.trace b kindOf (ops ++ [op]) =
      w.trace b kindOf ops ++ (ops.foldl (World.step b kindOf) w).callsOf b kindOf op := by
  induction ops generalizing w with
  | nil => simp [World.trace]
  | cons first ops ih => simp [World.trace, ih]

/-- **Every operation makes the call that its history says**, or none. -/
theorem Remembers.makes_step {ops : List (Op κ ι ν)} {w : World κ ι σ} (hr : Remembers ops w)
    (op : Op κ ι ν) :
    w.Makes b (routedCall? kindOf ops.reverse op) (w.callsOf b kindOf op) (w.step b kindOf op) := by
  cases op with
  | renew => exact World.makes_none b rfl
  | register slot shared name => exact World.makes_none b rfl
  -- No state is held when a visit begins, so whatever it is routed to is called.
  | visit node =>
    have hfree : ∀ h, w.isHeld h = false := by
      intro h
      cases h with
      | shared name => simp [World.isHeld, hr.held]
      | owned name serial => rfl
    have hall : ((routeIn kindOf ops.reverse node).filter fun _ => true) =
        routeIn kindOf ops.reverse node := by
      cases routeIn kindOf ops.reverse node with
      | none => rfl
      | some target => rfl
    have hvisit := w.makes_visit b kindOf node
    simp only [hfree, Bool.not_false, hr.route_eq_routeIn, hall] at hvisit
    exact hvisit
  -- The only handler that is held is the shared one of this name.
  | visitHolding name node =>
    have hheld : ∀ h, (!({ w with held := some name } : World κ ι σ).isHeld h) =
        decide (h ≠ .shared name) := by
      intro h
      cases h with
      | shared other => simp [World.isHeld, beq_eq_decide, eq_comm]
      | owned other serial => simp [World.isHeld]
    have hvisit := World.makes_visit b kindOf { w with held := some name } node
    simp only [hheld, hr.route_eq_routeIn] at hvisit
    exact ⟨hvisit.calls, hvisit.states⟩

omit [DecidableEq κ] in
theorem callsTo_append (h : Handler ι) (calls more : List (Call κ ι ν)) :
    callsTo h (calls ++ more) = callsTo h calls ++ callsTo h more :=
  List.filter_append ..

/-- **The calls made and the states left** are those of the history. -/
theorem trace_and_states (ops : List (Op κ ι ν)) :
    (World.start b).trace b kindOf ops = routedCalls kindOf ops ∧
      ∀ h, (World.after b kindOf ops).states h =
        (callsTo h (routedCalls kindOf ops)).foldl (b.update h) (b.start h.name) := by
  -- On the last operation, since what an operation calls depends on those before it.
  induction ops using List.reverseRecOn with
  | nil => exact ⟨rfl, fun h => rfl⟩
  | append_singleton ops op ih =>
    obtain ⟨htrace, hstates⟩ := ih
    have hstep := (remembers_after b kindOf ops).makes_step b kindOf op
    rw [routedCalls_concat]
    refine ⟨?_, fun h => ?_⟩
    · rw [World.trace_concat, htrace]
      exact congrArg _ hstep.calls
    · rw [World.after_concat, hstep.states, hstates, callsTo_append, List.foldl_append]

end Calls

/-! ## Handlers of a registration's own -/

section Owned

variable [DecidableEq κ] [DecidableEq ι] {kindOf : ν → Option κ}

omit [DecidableEq ι] in
theorem latestIn_of_routeIn {past : List (Op κ ι ν)} {node : ν} {target : Option κ × Handler ι}
    (h : routeIn kindOf past node = some target) : latestIn past target.1 = some target.2 := by
  rcases Option.or_eq_some_iff.1 h with h | ⟨-, h⟩
  · obtain ⟨kind, -, h⟩ := Option.bind_eq_some_iff.1 h
    obtain ⟨g, hg, rfl⟩ := Option.map_eq_some_iff.1 h
    exact hg
  · obtain ⟨g, hg, rfl⟩ := Option.map_eq_some_iff.1 h
    exact hg

/-- A call goes to what was registered last in its slot. -/
theorem isLatest_of_routedCall? {ops : List (Op κ ι ν)} {op : Op κ ι ν} {call : Call κ ι ν}
    (h : routedCall? kindOf ops.reverse op = some call) : IsLatest ops call.slot call.handler := by
  suffices hl : latestIn ops.reverse call.slot = some call.handler by
    rw [← List.reverse_reverse ops]
    exact latestIn_eq_some_iff.1 hl
  cases op with
  | renew => cases h
  | register slot shared name => cases h
  | visit node =>
    obtain ⟨target, ht, rfl⟩ := Option.map_eq_some_iff.1 h
    exact latestIn_of_routeIn ht
  | visitHolding name node =>
    obtain ⟨target, ht, rfl⟩ := Option.map_eq_some_iff.1 h
    exact latestIn_of_routeIn (Option.filter_eq_some_iff.1 ht).1

/-- A call of a history was made after some of the operations and before the others. -/
theorem exists_of_mem_routedCalls {ops : List (Op κ ι ν)} {call : Call κ ι ν}
    (h : call ∈ routedCalls kindOf ops) :
    ∃ before op after, ops = before ++ op :: after ∧ IsLatest before call.slot call.handler := by
  induction ops using List.reverseRecOn with
  | nil => cases h
  | append_singleton ops op ih =>
    rw [routedCalls_concat, List.mem_append, Option.mem_toList] at h
    rcases h with h | h
    · obtain ⟨before, op', after, rfl, hl⟩ := ih h
      exact ⟨before, op', after ++ [op], by simp, hl⟩
    · exact ⟨ops, op, [], rfl, isLatest_of_routedCall? h⟩

omit [DecidableEq κ] [DecidableEq ι] in
/-- A handler of its own that is the latest was registered here. -/
theorem IsLatest.owned {ops : List (Op κ ι ν)} {slot : Option κ} {name : ι} {serial : Nat}
    (h : IsLatest ops slot (.owned name serial)) :
    ∃ before after, ops = before ++ .register slot false name :: after ∧
      registrations before = serial := by
  obtain ⟨before, shared, name', after, rfl, -, hh⟩ := h
  cases shared with
  | true => cases hh
  | false =>
    cases hh
    exact ⟨before, after, rfl, rfl⟩

/-- Before a registration its handler has not been called. -/
theorem callsTo_owned_eq_nil (before : List (Op κ ι ν)) (name : ι) :
    callsTo (.owned name (registrations before)) (routedCalls kindOf before) = [] := by
  unfold callsTo
  rw [List.filter_eq_nil_iff]
  intro call hm hh
  obtain ⟨earlier, op, later, rfl, hl⟩ := exists_of_mem_routedCalls hm
  rw [of_decide_eq_true hh] at hl
  obtain ⟨first, rest, rfl, hn⟩ := hl.owned
  -- The registration would stand before itself.
  have hlt := registrations_lt first (rest ++ op :: later) call.slot false name
  rw [List.append_assoc, List.cons_append] at hn
  omega

/-- The handler of a registration is called through the slot of that registration. -/
theorem slot_of_mem_callsTo_owned {before after : List (Op κ ι ν)} {slot : Option κ} {name : ι}
    {call : Call κ ι ν}
    (h : call ∈ callsTo (.owned name (registrations before))
      (routedCalls kindOf (before ++ .register slot false name :: after))) : call.slot = slot := by
  obtain ⟨hm, hh⟩ := List.mem_filter.1 h
  obtain ⟨earlier, op, later, hops, hl⟩ := exists_of_mem_routedCalls hm
  rw [of_decide_eq_true hh] at hl
  obtain ⟨first, rest, rfl, hn⟩ := hl.owned
  rw [List.append_assoc, List.cons_append] at hops
  exact (eq_of_registrations_eq hops hn.symm).1.symm

end Owned

/-! ## States -/

/-- **The states of handlers follow the calls routed to them.** After any operations: the calls made
are those of the history, in order; the state of a handler is its first state after all calls of
that handler, through whatever slots and visitors they came; a registration or a new visitor leaves
all states alone, those of the handlers it replaces included; and a handler of a registration's own
starts afresh there, and is called through the slot of that registration only. -/
theorem states_follow_routed_calls [DecidableEq κ] [DecidableEq ι] (b : Behaviour κ ι ν σ)
    (kindOf : ν → Option κ) (ops : List (Op κ ι ν)) :
    let w := World.after b kindOf ops
    let calls := routedCalls kindOf ops
    (World.start b).trace b kindOf ops = calls ∧
    (∀ h, w.states h = (callsTo h calls).foldl (b.update h) (b.start h.name)) ∧
    (∀ op : Op κ ι ν, op.isVisit = false →
      (World.after b kindOf (ops ++ [op])).states = w.states) ∧
    ∀ before slot name after, ops = before ++ .register slot false name :: after →
      (World.after b kindOf before).states (.owned name (registrations before)) = b.start name ∧
        ∀ call ∈ callsTo (.owned name (registrations before)) calls, call.slot = slot := by
  intro w calls
  obtain ⟨htrace, hstates⟩ := trace_and_states b kindOf ops
  refine ⟨htrace, hstates, fun op hop => ?_, ?_⟩
  · funext h
    rw [World.after_concat]
    cases op with
    | renew => rfl
    | register slot shared name => rfl
    | visit node => cases hop
    | visitHolding name node => cases hop
  · rintro before slot name after rfl
    constructor
    · rw [(trace_and_states b kindOf before).2, callsTo_owned_eq_nil]
      rfl
    · intro call hm
      exact slot_of_mem_callsTo_owned hm

open Sample in
/-- A shared handler in three slots of two visitors, and a handler of its own that takes one of them
over. -/
theorem states_follow_routed_calls_shared :
    let b := cycling fun _ => [true]
    let before : List (Op Kind String Node) :=
      [.register (some .ident) true "s", .register none true "s", .visit (.ident "x"),
        .visit .other]
    let after : List (Op Kind String Node) :=
      [.visit (.ident "y"), .renew, .register (some .callExpr) true "s", .visit (.call "f" [])]
    let ops := before ++ .register (some .ident) false "c" :: after
    (World.after b Node.kind? ops).states (.shared "s") = 3 ∧
      ∀ call ∈ callsTo (.owned "c" (registrations before)) (routedCalls Node.kind? ops),
        call.slot = some .ident := by
  intro b before after ops
  obtain ⟨-, hstates, -, hown⟩ := states_follow_routed_calls b Node.kind? ops
  constructor
  · rw [hstates]
    rfl
  · exact (hown before (some .ident) "c" after rfl).2

end DispatchLayer.Routing
