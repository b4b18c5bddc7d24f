import DispatchLayer.Routing

/-!
# Visits with stateful handlers

Handlers keep a state and answer with a continuation. A visit calls at most one handler. The state
of a shared handler can be held from outside; a call that reaches a handler whose state is held
breaks off before the handler runs, and nothing has changed then (`World.visit`).
-/

namespace DispatchLayer.Routing

/-- What handlers are and do: the state each starts from, and how it answers a call. A call says
which slot it came through (`none` is the catch-all's). Handlers are independent state machines that
always answer: what one does depends on its own state and its own calls, it reaches no other
handler, and it neither fails nor visits again. -/
structure Behaviour (κ ι ν σ : Type) where
  start : ι → σ
  react : ι → Option κ → ν → σ → Bool × σ

/-- A call of a handler: through which slot, and with which node. -/
structure Call (κ ι ν : Type) where
  handler : Handler ι
  slot : Option κ
  node : ν
  deriving DecidableEq, Repr

/-- A visitor together with the states of all handlers there are. -/
structure World (κ ι σ : Type) where
  visitor : Visitor κ ι
  states : Handler ι → σ
  /-- The shared handler whose state is held from outside. -/
  held : Option ι
  /-- The serial number of the next handler that a registration owns. -/
  nextSerial : Nat

/-- The call reached a handler whose state is held. -/
inductive VisitError where
  | held
  deriving DecidableEq, Repr

/-- What a visit did. -/
structure Visit (κ ι ν σ : Type) where
  result : Except VisitError Continuation
  /-- The calls made, in order. -/
  calls : List (Call κ ι ν)
  world : World κ ι σ

namespace World

variable {κ ι ν σ : Type}

/-- The world before any registration. -/
def start (b : Behaviour κ ι ν σ) : World κ ι σ :=
  ⟨.new, fun h => b.start h.name, none, 0⟩

/-- Begin with a fresh visitor. The handlers keep their states. -/
def renew (w : World κ ι σ) : World κ ι σ := { w with visitor := .new }

/-- The handler that a registration of this name puts into its slot: the shared one, or a handler of
its own. -/
def handlerFor (w : World κ ι σ) (shared : Bool) (name : ι) : Handler ι :=
  if shared then .shared name else .owned name w.nextSerial

/-- Register a handler in a slot: a kind's, or the catch-all's. -/
def register [DecidableEq κ] (w : World κ ι σ) (slot : Option κ) (shared : Bool) (name : ι) :
    World κ ι σ :=
  let h := w.handlerFor shared name
  { w with
    visitor := match slot with
      | some kind => w.visitor.on kind h
      | none => w.visitor.onDefault h
    nextSerial := w.nextSerial + 1 }

/-- Whether the state of a handler is held from outside. -/
def isHeld [DecidableEq ι] (w : World κ ι σ) : Handler ι → Bool
  | .shared name => w.held == some name
  | .owned _ _ => false

/-- Call a handler through a slot. -/
def call [DecidableEq ι] (b : Behaviour κ ι ν σ) (w : World κ ι σ) (slot : Option κ)
    (h : Handler ι) (node : ν) : Visit κ ι ν σ :=
  if w.isHeld h then ⟨.error .held, [], w⟩
  else
    let answer := b.react h.name slot node (w.states h)
    ⟨.ok (.ofBool answer.1), [⟨h, slot, node⟩],
      { w with states := fun other => if other = h then answer.2 else w.states other }⟩

/-- Visit a node, whose kind is given. -/
def visit [DecidableEq ι] (b : Behaviour κ ι ν σ) (kindOf : ν → Option κ) (w : World κ ι σ)
    (node : ν) : Visit κ ι ν σ :=
  match w.visitor.route (kindOf node) with
  | some (slot, h) => w.call b slot h node
  | none => ⟨.ok .descend, [], w⟩

/-- Visit a node while the state of a shared handler is held. -/
def visitHolding [DecidableEq ι] (b : Behaviour κ ι ν σ) (kindOf : ν → Option κ) (w : World κ ι σ)
    (name : ι) (node : ν) : Visit κ ι ν σ :=
  let v := visit b kindOf { w with held := some name } node
  { v with world := { v.world with held := w.held } }

/-- What a sequence of visits did. -/
structure Walk (κ ι ν σ : Type) where
  /-- The nodes visited, each with its result. -/
  results : List (ν × Except VisitError Continuation)
  calls : List (Call κ ι ν)
  world : World κ ι σ

/-- Visit nodes one after the other. -/
def visitAll [DecidableEq ι] (b : Behaviour κ ι ν σ) (kindOf : ν → Option κ) (w : World κ ι σ) :
    List ν → Walk κ ι ν σ
  | [] => ⟨[], [], w⟩
  | node :: rest =>
    let first := visit b kindOf w node
    let more := visitAll b kindOf first.world rest
    ⟨(node, first.result) :: more.results, first.calls ++ more.calls, more.world⟩

/-- Visit a node, and its children if the continuation asks for them. -/
def walk [DecidableEq ι] (b : Behaviour κ ι ν σ) (kindOf : ν → Option κ) (children : ν → List ν)
    (w : World κ ι σ) (node : ν) : Walk κ ι ν σ :=
  let first := visit b kindOf w node
  let below := match first.result with
    | .ok .descend => children node
    | _ => []
  let more := visitAll b kindOf first.world below
  ⟨(node, first.result) :: more.results, first.calls ++ more.calls, more.world⟩

end World

end DispatchLayer.Routing
