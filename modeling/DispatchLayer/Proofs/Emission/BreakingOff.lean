import DispatchLayer.Proofs.Emission.Completion

/-!
# Where emission breaks off

Every part of a file checks the names it needs when it is built, so a name is checked several times
and the names of a kind are checked in several places. What counts is the first check of a name:
checking it once more changes nothing (`validateAll_append_flatMap`). With the repeated checks left
out, the handlers ask for all kinds first and for trait and method kind by kind after that
(`handlersOrder`); the visitor asks for trait, method and kind, kind by kind, then for all slots, and
then for all registration methods (`visitorOrder`). An emitter breaks off exactly if one of its names
is no token, and reports the first such name in that order (`breaks_off_at_first_bad_name`). This
holds for all plans, whether they were made by lowering or by hand.
-/

namespace DispatchLayer

namespace Name

/-- **The first bad name.** The names up to this one give tokens, and this one gives the error. -/
def FirstBad (names : List String) (e : NameError) : Prop :=
  ∃ before name after, names = before ++ name :: after ∧
    (∀ n ∈ before, ∃ token, make n = .ok token) ∧ make name = .error e

theorem make_eq_error_iff {name : String} {e : NameError} :
    make name = .error e ↔ validate name = .error e := by
  unfold make
  cases validate name with
  | ok u => simp
  | error e' => simp

theorem exists_make_iff {name : String} :
    (∃ token, make name = .ok token) ↔ validate name = .ok () := by
  unfold make
  cases validate name with
  | ok u => simp
  | error e => simp

theorem not_firstBad_nil {e : NameError} : ¬ FirstBad [] e := by
  rintro ⟨before, name, after, h, -⟩
  simp at h

/-- The first bad name is the first one of all, or the first bad one of the rest. -/
theorem firstBad_cons_iff {name : String} {rest : List String} {e : NameError} :
    FirstBad (name :: rest) e ↔
      make name = .error e ∨ (∃ token, make name = .ok token) ∧ FirstBad rest e := by
  constructor
  · rintro ⟨before, bad, after, hnames, hbefore, hbad⟩
    cases before with
    | nil =>
      cases hnames
      exact Or.inl hbad
    | cons first before =>
      cases hnames
      obtain ⟨hfirst, hbefore⟩ := List.forall_mem_cons.1 hbefore
      exact Or.inr ⟨hfirst, before, bad, after, rfl, hbefore, hbad⟩
  · rintro (hbad | ⟨hname, before, bad, after, rfl, hbefore, hbad⟩)
    · exact ⟨[], name, rest, rfl, by simp, hbad⟩
    · exact ⟨name :: before, bad, after, rfl, List.forall_mem_cons.2 ⟨hname, hbefore⟩, hbad⟩

/-- **A check ends at the first bad name.** -/
theorem validateAll_eq_error_iff {names : List String} {e : NameError} :
    validateAll names = .error e ↔ FirstBad names e := by
  induction names with
  | nil => exact iff_of_false (by simp [validateAll]) not_firstBad_nil
  | cons name rest ih =>
    rw [firstBad_cons_iff, exists_make_iff, make_eq_error_iff, ← ih, validateAll]
    cases validate name with
    | ok u => simp
    | error e' => simp

/-- A check fails exactly if one of the names is bad. -/
theorem exists_firstBad_iff {names : List String} :
    (∃ e, FirstBad names e) ↔ ∃ name ∈ names, ∃ e, make name = .error e := by
  constructor
  · rintro ⟨e, before, name, after, rfl, -, he⟩
    exact ⟨name, by simp, e, he⟩
  · rintro ⟨name, hm, e, he⟩
    rw [make_eq_error_iff] at he
    cases hall : validateAll names with
    | error first => exact ⟨first, validateAll_eq_error_iff.1 hall⟩
    | ok u =>
      have hname := validateAll_eq_ok_iff.1 hall name hm
      rw [he] at hname
      cases hname

/-! ## Checking a name once more -/

/-- Names that stand in front already can be left out at the end. -/
theorem validateAll_append_of_subset {names more : List String} (h : more ⊆ names) :
    validateAll (names ++ more) = validateAll names := by
  rw [validateAll_append]
  cases hnames : validateAll names with
  | error e => rfl
  | ok u =>
    rw [validateAll_eq_ok_iff] at hnames
    exact validateAll_eq_ok_iff.2 fun n hn => hnames n (h hn)

theorem validateAll_flatMap_congr {α : Type} {f g : α → List String} {as : List α}
    (h : ∀ a ∈ as, validateAll (f a) = validateAll (g a)) :
    validateAll (as.flatMap f) = validateAll (as.flatMap g) := by
  induction as with
  | nil => rfl
  | cons a as ih =>
    obtain ⟨ha, has⟩ := List.forall_mem_cons.1 h
    rw [List.flatMap_cons, List.flatMap_cons, validateAll_append, validateAll_append, ha, ih has]

/-- **A name that was checked before can be left out**, also where every member of a list asks for
one at its end. -/
theorem validateAll_append_flatMap {α : Type} {checked : List String} {as : List α}
    (f again : α → List String) (h : ∀ a ∈ as, again a ⊆ checked) :
    validateAll (checked ++ as.flatMap fun a => f a ++ again a) =
      validateAll (checked ++ as.flatMap f) := by
  rw [validateAll_append, validateAll_append]
  cases hchecked : validateAll checked with
  | error e => rfl
  | ok u =>
    apply validateAll_flatMap_congr
    intro a ha
    rw [validateAll_append]
    cases validateAll (f a) with
    | error e => rfl
    | ok u =>
      rw [validateAll_eq_ok_iff] at hchecked
      exact validateAll_eq_ok_iff.2 fun n hn => hchecked n (h a ha hn)

end Name

namespace Emission

open Code Name

/-- The names of the handlers file in the order in which they are first checked: all kinds, and then
trait and method kind by kind. -/
def handlersOrder (kinds : List KindNames) : List String :=
  kinds.map (·.name) ++ kinds.flatMap fun k => [k.handlerTrait, k.method]

/-- The names of the visitor file in the order in which they are first checked: trait, method and
kind, kind by kind; then all slots; then all registration methods. -/
def visitorOrder (kinds : List KindNames) : List String :=
  kinds.flatMap (fun k => [k.handlerTrait, k.method, k.name]) ++ kinds.map (·.slot) ++
    kinds.map (·.registerFn)

section Order

variable (kinds : List KindNames)

theorem validateAll_handlersNames :
    validateAll (handlersNames kinds) = validateAll (handlersOrder kinds) := by
  have variants : validateAll (kinds.flatMap fun k => [k.name, k.name]) =
      validateAll (kinds.map (·.name)) := by
    rw [List.map_eq_flatMap]
    apply validateAll_flatMap_congr
    intro k _
    show validateAll ([k.name] ++ [k.name]) = validateAll [k.name]
    exact validateAll_append_of_subset (List.Subset.refl _)
  -- Labels and conversions ask for the kinds again, which the variants have asked for.
  have node : validateAll (kinds.flatMap (fun k => [k.name, k.name]) ++
      kinds.flatMap (fun k => [k.name]) ++ kinds.flatMap fun k => [k.name, k.name]) =
        validateAll (kinds.map (·.name)) := by
    rw [validateAll_append_of_subset, validateAll_append_of_subset, variants]
    · intro n hn
      simpa using hn
    · intro n hn
      simpa using hn
  unfold handlersNames handlersOrder
  rw [validateAll_append, node, ← validateAll_append]
  -- So do the contracts, at their end.
  refine validateAll_append_flatMap (fun k : KindNames => [k.handlerTrait, k.method])
    (fun k => [k.name]) ?_
  intro k hk
  simpa using ⟨k, hk, rfl⟩

/-- Shared handlers, slots and registration methods ask for all names of a kind. -/
theorem flatMap_subset_asked {f : KindNames → List String} (hf : ∀ k, f k ⊆ namesOf k) :
    kinds.flatMap f ⊆
      kinds.flatMap (fun k => [k.handlerTrait, k.method, k.name]) ++
        kinds.flatMap (fun k => [k.slot, k.handlerTrait]) ++
          kinds.flatMap fun k => [k.registerFn, k.slot, k.handlerTrait] := by
  intro n hn
  obtain ⟨k, hk, hn⟩ := List.mem_flatMap.1 hn
  have hname := hf k hn
  simp only [namesOf, List.mem_cons, List.not_mem_nil, or_false] at hname
  simp only [List.mem_append, List.mem_flatMap, List.mem_cons, List.not_mem_nil, or_false]
  rcases hname with rfl | rfl | rfl | rfl | rfl
  · exact Or.inl (Or.inl ⟨k, hk, by simp⟩)
  · exact Or.inl (Or.inl ⟨k, hk, by simp⟩)
  · exact Or.inl (Or.inl ⟨k, hk, by simp⟩)
  · exact Or.inl (Or.inr ⟨k, hk, by simp⟩)
  · exact Or.inr ⟨k, hk, by simp⟩

theorem validateAll_visitorNames :
    validateAll (visitorNames kinds) = validateAll (visitorOrder kinds) := by
  have fields : validateAll (kinds.flatMap (fun k => [k.handlerTrait, k.method, k.name]) ++
      kinds.flatMap fun k => [k.slot, k.handlerTrait]) =
        validateAll (kinds.flatMap (fun k => [k.handlerTrait, k.method, k.name]) ++
          kinds.map (·.slot)) := by
    rw [List.map_eq_flatMap]
    refine validateAll_append_flatMap (fun k : KindNames => [k.slot]) (fun k => [k.handlerTrait]) ?_
    intro k hk
    simpa using ⟨k, hk, Or.inl rfl⟩
  have presence := flatMap_subset_asked kinds (f := fun k => [k.name, k.slot]) (by simp [namesOf])
  have dispatch := flatMap_subset_asked kinds (f := fun k => [k.name, k.slot, k.method])
    (by simp [namesOf])
  unfold visitorNames visitorOrder
  -- The arms ask for nothing new, and the registration methods for nothing new but themselves.
  rw [← List.append_assoc, ← List.append_assoc,
    validateAll_append_of_subset (List.subset_append_of_subset_left _ dispatch),
    validateAll_append_of_subset presence, validateAll_append, fields, ← validateAll_append,
    List.map_eq_flatMap (f := KindNames.registerFn)]
  refine validateAll_append_flatMap (fun k : KindNames => [k.registerFn])
    (fun k => [k.slot, k.handlerTrait]) ?_
  intro k hk n hn
  simp only [List.mem_cons, List.not_mem_nil, or_false] at hn
  rcases hn with rfl | rfl
  · exact List.mem_append_right _ (List.mem_map_of_mem hk)
  · exact List.mem_append_left _ (List.mem_flatMap.2 ⟨k, hk, by simp⟩)

end Order

/-! ## Breaking off -/

theorem map_eq_error_iff {ε α β : Type} {x : Except ε α} {f : α → β} {e : ε} :
    x.map f = .error e ↔ x = .error e := by
  cases x with
  | error e' => simp [Except.map]
  | ok a => simp [Except.map]

/-- A computation that checks names first breaks off where their check does. -/
theorem Emits.eq_error_iff {α : Type} {x : Except NameError α} {names : List String} {a : α}
    {e : NameError} (h : Emits x names a) : x = .error e ↔ validateAll names = .error e := by
  unfold Emits at h
  rw [h]
  exact map_eq_error_iff

section Plans

variable {ast : Path} {plan : DispatchPlan} {e : NameError}

theorem handlers_eq_error_iff :
    handlers ast plan = .error e ↔ validateAll (handlersNames plan.kinds) = .error e := by
  unfold handlers
  rw [map_eq_error_iff]
  exact (emits_handlersFile ast plan.kinds).eq_error_iff

theorem visitor_eq_error_iff :
    visitor ast plan = .error e ↔ validateAll (visitorNames plan.kinds) = .error e := by
  unfold visitor
  rw [map_eq_error_iff]
  exact (emits_visitorFile ast plan.kinds).eq_error_iff

/-- The handlers break off exactly if a kind, a trait or a method is no name token. -/
theorem exists_handlers_eq_error_iff :
    (∃ e, handlers ast plan = .error e) ↔
      ∃ k ∈ plan.kinds, ∃ n ∈ [k.name, k.handlerTrait, k.method], ∃ e, make n = .error e := by
  simp only [handlers_eq_error_iff, validateAll_eq_error_iff]
  rw [exists_firstBad_iff]
  constructor
  · rintro ⟨n, hn, he⟩
    obtain ⟨k, hk, hn⟩ := mem_handlersNames.1 hn
    exact ⟨k, hk, n, hn, he⟩
  · rintro ⟨k, hk, n, hn, he⟩
    exact ⟨n, mem_handlersNames.2 ⟨k, hk, hn⟩, he⟩

/-- The visitor breaks off exactly if a name of a kind is no name token. -/
theorem exists_visitor_eq_error_iff :
    (∃ e, visitor ast plan = .error e) ↔
      ∃ k ∈ plan.kinds, ∃ n ∈ namesOf k, ∃ e, make n = .error e := by
  simp only [visitor_eq_error_iff, validateAll_eq_error_iff]
  rw [exists_firstBad_iff]
  constructor
  · rintro ⟨n, hn, he⟩
    obtain ⟨k, hk, hn⟩ := mem_visitorNames.1 hn
    exact ⟨k, hk, n, hn, he⟩
  · rintro ⟨k, hk, n, hn, he⟩
    exact ⟨n, mem_visitorNames.2 ⟨k, hk, hn⟩, he⟩

end Plans

/-- A kind whose slot is no name, while what the handlers file asks for is. -/
def slotless : KindNames := ⟨"A", "AHandler", "a", "", "on_a"⟩

/-- **Emission breaks off at the first bad name.** For every plan, whatever its names, and every
path of the node types: the handlers break off exactly if a kind, a trait or a method is no name
token, and the visitor exactly if any name of a kind is none. So the visitor breaks off whenever the
handlers do, and there are plans with which it alone does. What is reported is the first bad name:
for the handlers among all kinds, and then trait and method kind by kind; for the visitor among
trait, method and kind, kind by kind, then all slots, and then all registration methods. -/
theorem breaks_off_at_first_bad_name (ast : Path) (plan : DispatchPlan) :
    ((∃ e, handlers ast plan = .error e) ↔
      ∃ k ∈ plan.kinds, ∃ n ∈ [k.name, k.handlerTrait, k.method], ∃ e, make n = .error e) ∧
    ((∃ e, visitor ast plan = .error e) ↔
      ∃ k ∈ plan.kinds, ∃ n ∈ [k.name, k.handlerTrait, k.method, k.slot, k.registerFn],
        ∃ e, make n = .error e) ∧
    ((∃ e, handlers ast plan = .error e) → ∃ e, visitor ast plan = .error e) ∧
    (∃ other : DispatchPlan, (∃ a, handlers ast other = .ok a) ∧
      ∃ e, visitor ast other = .error e) ∧
    (∀ e, handlers ast plan = .error e ↔ FirstBad (handlersOrder plan.kinds) e) ∧
    ∀ e, visitor ast plan = .error e ↔ FirstBad (visitorOrder plan.kinds) e := by
  refine ⟨exists_handlers_eq_error_iff, exists_visitor_eq_error_iff, ?_, ?_, ?_, ?_⟩
  · -- What the handlers ask for is part of what the visitor asks for.
    rw [exists_handlers_eq_error_iff, exists_visitor_eq_error_iff]
    rintro ⟨k, hk, n, hn, he⟩
    exact ⟨k, hk, n, List.mem_append_left [k.slot, k.registerFn] hn, he⟩
  · refine ⟨⟨"m", "syn", [slotless]⟩, ?_, ?_⟩
    · apply map_isOk_iff.2
      rw [(emits_handlersFile ast [slotless]).isOk_iff]
      decide +kernel
    · exact exists_visitor_eq_error_iff.2
        ⟨slotless, List.mem_singleton_self _, "", by decide, .empty, by decide +kernel⟩
  · intro e
    rw [handlers_eq_error_iff, validateAll_handlersNames, validateAll_eq_error_iff]
  · intro e
    rw [visitor_eq_error_iff, validateAll_visitorNames, validateAll_eq_error_iff]

/-- A plan made by hand with a bad method and, in a later kind, a bad name: the handlers report the
name, which all kinds are asked for first, and the visitor reports the method. -/
theorem breaks_off_at_first_bad_name_crossed :
    let plan : DispatchPlan := ⟨"m", "syn",
      [⟨"A", "AHandler", "1", "", "on_a"⟩, ⟨"B b", "BHandler", "b", "h_b", "on_b"⟩]⟩
    readAstPath plan.astPath = .ok (Path.single "syn") ∧
      handlers (Path.single "syn") plan = .error (.malformed "B b") ∧
      visitor (Path.single "syn") plan = .error .number := by
  intro plan
  obtain ⟨-, -, -, -, hhandlers, hvisitor⟩ := breaks_off_at_first_bad_name (Path.single "syn") plan
  refine ⟨readAstPath_syn, (hhandlers _).2 ?_, (hvisitor _).2 ?_⟩
  · refine ⟨["A"], "B b", ["AHandler", "1", "BHandler", "b"], rfl, ?_, by decide +kernel⟩
    intro n hn
    rw [List.mem_singleton.1 hn]
    exact ⟨"A", by decide +kernel⟩
  · refine ⟨["AHandler"], "1", _, rfl, ?_, by decide +kernel⟩
    intro n hn
    rw [List.mem_singleton.1 hn]
    exact ⟨"AHandler", by decide +kernel⟩

end Emission

end DispatchLayer
