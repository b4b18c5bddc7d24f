/-!
# Routing

A visitor holds at most one handler for each kind of node, and a catch-all. A node goes to the
handler of its kind, else to the catch-all, else to none. A registration replaces what its slot
held, so of several the last one counts. The visitor that is generated for a catalog routes nodes in
this way (`Emission.emitted_visitor_routes`).

A handler is either shared, in which case all its registrations are the same handler, or owned by
the slot it was registered in.
-/

namespace DispatchLayer.Routing

/-- Whether to go on into the children of a node. -/
inductive Continuation where
  | descend
  | stop
  deriving DecidableEq, Repr

/-- The continuation that a handler's answer asks for. -/
def Continuation.ofBool : Bool → Continuation
  | true => .descend
  | false => .stop

/-- The name of a continuation. -/
def Continuation.label : Continuation → String
  | .descend => "Continue"
  | .stop => "Stop"

/-- Whether the continuation goes into the children. -/
def Continuation.shouldDescend : Continuation → Bool
  | .descend => true
  | .stop => false

/-- A handler as a slot holds it. Handlers are independent of each other: each is a state machine of
its own, and none keeps another one inside, be it a shared handler within a shared one or a clone
that a closure has captured. -/
inductive Handler (ι : Type) where
  /-- A shared handler: every slot that names it reaches the same state. -/
  | shared (name : ι)
  /-- A handler that belongs to one registration, told from others by its serial number. -/
  | owned (name : ι) (serial : Nat)
  deriving DecidableEq, Repr

/-- What the handler was made from. -/
def Handler.name {ι : Type} : Handler ι → ι
  | .shared name => name
  | .owned name _ => name

/-- The slots of a visitor: one for each kind, and the catch-all's. -/
structure Visitor (κ ι : Type) where
  specific : κ → Option (Handler ι)
  catchAll : Option (Handler ι)

namespace Visitor

variable {κ ι : Type}

/-- The visitor without any handler. -/
def new : Visitor κ ι := ⟨fun _ => none, none⟩

/-- Register a handler for a kind. -/
def on [DecidableEq κ] (v : Visitor κ ι) (kind : κ) (h : Handler ι) : Visitor κ ι :=
  { v with specific := fun k => if k = kind then some h else v.specific k }

/-- Register the catch-all. -/
def onDefault (v : Visitor κ ι) (h : Handler ι) : Visitor κ ι :=
  { v with catchAll := some h }

/-- The slot a node of this kind is routed to, as the kind of the slot, with the handler in it. A
node without a kind of its own (`none`) can only go to the catch-all. -/
def route (v : Visitor κ ι) : Option κ → Option (Option κ × Handler ι)
  | some kind =>
    match v.specific kind with
    | some h => some (some kind, h)
    | none => v.catchAll.map (none, ·)
  | none => v.catchAll.map (none, ·)

/-- Whether a node of this kind would reach a handler. -/
def hasHandlerFor (v : Visitor κ ι) (kind : Option κ) : Bool :=
  let ownSlot := match kind with
    | some k => (v.specific k).isSome
    | none => false
  ownSlot || v.catchAll.isSome

end Visitor

end DispatchLayer.Routing
