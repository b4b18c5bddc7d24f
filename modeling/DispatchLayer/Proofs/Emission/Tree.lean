import DispatchLayer.Emission.Visitor

/-!
# Emission is a check of names and a tree

Emission checks names and builds trees in one go. Here the two are taken apart: every emitter first
checks a list of names in order, and then answers with a tree that is a plain function of the plan
(`Emits`). The lists and the trees of the parts give those of the two files (`emits_handlersFile`,
`emits_visitorFile`), so what is said about the files can be said about `handlersTree` and
`visitorTree`.
-/

namespace DispatchLayer

/-- Check names one after the other, up to the first that is none. -/
def Name.validateAll : List String → Except NameError Unit
  | [] => .ok ()
  | name :: rest =>
    match Name.validate name with
    | .ok () => validateAll rest
    | .error e => .error e

theorem Name.validateAll_append (as bs : List String) :
    Name.validateAll (as ++ bs) =
      match Name.validateAll as with
      | .ok () => Name.validateAll bs
      | .error e => .error e := by
  induction as with
  | nil => rfl
  | cons a as ih =>
    rw [List.cons_append, Name.validateAll, Name.validateAll]
    cases Name.validate a with
    | error e => rfl
    | ok u => exact ih

theorem Name.validateAll_eq_ok_iff {names : List String} :
    Name.validateAll names = .ok () ↔ ∀ n ∈ names, Name.validate n = .ok () := by
  induction names with
  | nil => simp [Name.validateAll]
  | cons name rest ih =>
    rw [List.forall_mem_cons, ← ih, Name.validateAll]
    cases Name.validate name with
    | error e => simp
    | ok u => simp

namespace Emission

open Code

variable {α β : Type}

/-! ## Checks first, then a value -/

/-- The computation checks these names in order, and then it answers with this value. -/
def Emits (x : Except NameError α) (names : List String) (a : α) : Prop :=
  x = (Name.validateAll names).map fun _ => a

theorem Emits.of_pure (a : α) : Emits (pure a) [] a := rfl

theorem Emits.of_make (name : String) : Emits (Name.make name) [name] name := by
  unfold Emits Name.make Name.validateAll
  cases Name.validate name with
  | error e => rfl
  | ok u => rfl

theorem Emits.bind {x : Except NameError α} {f : α → Except NameError β} {names more : List String}
    {a : α} {b : β} (hx : Emits x names a) (hf : Emits (f a) more b) :
    Emits (x >>= f) (names ++ more) b := by
  unfold Emits at hx hf ⊢
  -- After a failed check nothing of the second computation is run.
  rw [hx, Name.validateAll_append]
  cases Name.validateAll names with
  | error e => rfl
  | ok u => exact hf

/-- The last step of a part: a tree is made from what the steps before have answered. -/
theorem Emits.result {x : Except NameError α} {names : List String} {a : α} (hx : Emits x names a)
    (f : α → β) : Emits (x >>= fun a => pure (f a)) names (f a) := by
  have h := Emits.bind (f := fun a => pure (f a)) hx (Emits.of_pure (f a))
  rwa [List.append_nil] at h

/-- **Part by part.** The names of a list of parts are those of its members in order. -/
theorem Emits.mapM {f : α → Except NameError β} {names : α → List String} {g : α → β}
    (h : ∀ a, Emits (f a) (names a) (g a)) (as : List α) :
    Emits (as.mapM f) (as.flatMap names) (as.map g) := by
  induction as with
  | nil => exact Emits.of_pure []
  | cons a as ih =>
    rw [List.mapM_cons, List.flatMap_cons, List.map_cons]
    exact (h a).bind (ih.result _)

theorem Emits.eq_ok_iff {x : Except NameError α} {names : List String} {a b : α}
    (h : Emits x names a) :
    x = .ok b ↔ (∀ n ∈ names, Name.validate n = .ok ()) ∧ b = a := by
  unfold Emits at h
  rw [h, ← Name.validateAll_eq_ok_iff]
  cases Name.validateAll names with
  | error e => simp [Except.map]
  | ok u => simp [Except.map, eq_comm]

/-- A computation gives something exactly if all its names are name tokens. -/
theorem Emits.isOk_iff {x : Except NameError α} {names : List String} {a : α}
    (h : Emits x names a) : (∃ b, x = .ok b) ↔ ∀ n ∈ names, Name.validate n = .ok () := by
  constructor
  · rintro ⟨b, hb⟩
    exact (h.eq_ok_iff.1 hb).1
  · intro hn
    exact ⟨a, h.eq_ok_iff.2 ⟨hn, rfl⟩⟩

/-! ## The handlers file -/

/-- The type of a kind's own nodes, as a tree. -/
def ownTy (ast : Path) (k : KindNames) : Ty := Ty.ofPath (ast.extend k.name)

/-- The documentation of a kind's trait. -/
def contractDoc (k : KindNames) : Attribute :=
  Attribute.docEscaped (" Handles `" ++ k.name ++ "` nodes.")

/-- The documentation of a kind's registration method. -/
def registerDoc (k : KindNames) : Attribute :=
  Attribute.docEscaped (" Register the `" ++ k.name ++ "` handler, replacing any previous one.")

/-- The file with the node type and the handler traits, as a tree. -/
def handlersTree (ast : Path) (kinds : List KindNames) : SourceFile :=
  ⟨none, [allowUnused],
    nodeItem (kinds.map fun k => nodeVariant k.name (ownTy ast k)) ::
      labelItem (kinds.map fun k => labelArm k.name k.name) ::
      (kinds.map fun k => conversionItem k.name (ownTy ast k)) ++
      (kinds.map fun k =>
        contractItems (contractDoc k) k.handlerTrait k.method (Ty.ref (ownTy ast k))).flatten ++
      defaultContract⟩

/-- The names that the handlers file is checked for, in order. -/
def handlersNames (kinds : List KindNames) : List String :=
  kinds.flatMap (fun k => [k.name, k.name]) ++ kinds.flatMap (fun k => [k.name]) ++
    kinds.flatMap (fun k => [k.name, k.name]) ++
    kinds.flatMap fun k => [k.handlerTrait, k.method, k.name]

theorem emits_kindTy (ast : Path) (k : KindNames) : Emits (kindTy ast k) [k.name] (ownTy ast k) :=
  (Emits.of_make k.name).result _

theorem emits_kindVariant (ast : Path) (k : KindNames) :
    Emits (kindVariant ast k) [k.name, k.name] (nodeVariant k.name (ownTy ast k)) :=
  (Emits.of_make k.name).bind ((emits_kindTy ast k).result _)

theorem emits_kindLabelArm (k : KindNames) :
    Emits (kindLabelArm k) [k.name] (labelArm k.name k.name) :=
  (Emits.of_make k.name).result _

theorem emits_nodeFrom (ast : Path) (k : KindNames) :
    Emits (nodeFrom ast k) [k.name, k.name] (conversionItem k.name (ownTy ast k)) :=
  (Emits.of_make k.name).bind ((emits_kindTy ast k).result _)

theorem emits_kindContract (ast : Path) (k : KindNames) :
    Emits (kindContract ast k) [k.handlerTrait, k.method, k.name]
      (contractItems (contractDoc k) k.handlerTrait k.method (Ty.ref (ownTy ast k))) :=
  (Emits.of_make k.handlerTrait).bind
    ((Emits.of_make k.method).bind ((emits_kindTy ast k).result _))

/-- **The handlers file** is the tree of its kinds, after the check of its names. -/
theorem emits_handlersFile (ast : Path) (kinds : List KindNames) :
    Emits (handlersFile ast kinds) (handlersNames kinds) (handlersTree ast kinds) := by
  have node := (Emits.mapM (emits_kindVariant ast) kinds).result nodeItem
  have labels := (Emits.mapM emits_kindLabelArm kinds).result labelItem
  have conversions := Emits.mapM (emits_nodeFrom ast) kinds
  have contracts := Emits.mapM (emits_kindContract ast) kinds
  -- The names come in the order in which the parts are made, the contracts last.
  unfold handlersNames
  rw [List.append_assoc, List.append_assoc]
  exact node.bind (labels.bind (conversions.bind (contracts.result _)))

/-! ## The visitor file -/

/-- The file with the visitor, as a tree. -/
def visitorTree (ast : Path) (kinds : List KindNames) : SourceFile :=
  ⟨none, [allowUnused],
    .use [] .inherited false (.path "super" (.path Naming.handlersModule .glob)) ::
      continuationItems ++
      (sharedItems ++
        (kinds.map fun k => sharedImpl k.handlerTrait k.method (Ty.ref (ownTy ast k))) ++
        [sharedImpl Naming.defaultTrait Naming.defaultMethod anyNodeTy]) ++
      [visitorItem (kinds.map fun k => slotField k.slot k.handlerTrait),
        methodsItem
          (kinds.map fun k => registerFn (registerDoc k) k.registerFn k.slot k.handlerTrait)
          (kinds.map fun k => presenceArm k.name k.slot)
          (kinds.map fun k => dispatchArm k.name k.slot k.method)]⟩

/-- The names that the visitor file is checked for, in order. -/
def visitorNames (kinds : List KindNames) : List String :=
  kinds.flatMap (fun k => [k.handlerTrait, k.method, k.name]) ++
    kinds.flatMap (fun k => [k.slot, k.handlerTrait]) ++
    (kinds.flatMap (fun k => [k.registerFn, k.slot, k.handlerTrait]) ++
      kinds.flatMap (fun k => [k.name, k.slot]) ++
      kinds.flatMap fun k => [k.name, k.slot, k.method])

theorem emits_kindSharedImpl (ast : Path) (k : KindNames) :
    Emits (kindSharedImpl ast k) [k.handlerTrait, k.method, k.name]
      (sharedImpl k.handlerTrait k.method (Ty.ref (ownTy ast k))) :=
  (Emits.of_make k.handlerTrait).bind
    ((Emits.of_make k.method).bind ((emits_kindTy ast k).result _))

theorem emits_kindSlot (k : KindNames) :
    Emits (kindSlot k) [k.slot, k.handlerTrait] (slotField k.slot k.handlerTrait) :=
  (Emits.of_make k.slot).bind ((Emits.of_make k.handlerTrait).result _)

theorem emits_kindRegisterFn (k : KindNames) :
    Emits (kindRegisterFn k) [k.registerFn, k.slot, k.handlerTrait]
      (registerFn (registerDoc k) k.registerFn k.slot k.handlerTrait) :=
  (Emits.of_make k.registerFn).bind
    ((Emits.of_make k.slot).bind ((Emits.of_make k.handlerTrait).result _))

theorem emits_kindPresenceArm (k : KindNames) :
    Emits (kindPresenceArm k) [k.name, k.slot] (presenceArm k.name k.slot) :=
  (Emits.of_make k.name).bind ((Emits.of_make k.slot).result _)

theorem emits_kindDispatchArm (k : KindNames) :
    Emits (kindDispatchArm k) [k.name, k.slot, k.method] (dispatchArm k.name k.slot k.method) :=
  (Emits.of_make k.name).bind ((Emits.of_make k.slot).bind ((Emits.of_make k.method).result _))

/-- **The visitor file** is the tree of its kinds, after the check of its names. -/
theorem emits_visitorFile (ast : Path) (kinds : List KindNames) :
    Emits (visitorFile ast kinds) (visitorNames kinds) (visitorTree ast kinds) := by
  have shared := (Emits.mapM (emits_kindSharedImpl ast) kinds).result fun impls =>
    sharedItems ++ impls ++ [sharedImpl Naming.defaultTrait Naming.defaultMethod anyNodeTy]
  have fields := (Emits.mapM emits_kindSlot kinds).result visitorItem
  have registrations := Emits.mapM emits_kindRegisterFn kinds
  have presence := Emits.mapM emits_kindPresenceArm kinds
  have dispatch := Emits.mapM emits_kindDispatchArm kinds
  have methods : Emits (visitorImpl kinds) _ _ :=
    registrations.bind (presence.bind (dispatch.result _))
  unfold visitorNames
  rw [List.append_assoc, List.append_assoc (kinds.flatMap _)]
  exact shared.bind (fields.bind (methods.result _))

end Emission

end DispatchLayer
