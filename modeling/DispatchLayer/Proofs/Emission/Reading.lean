import DispatchLayer.Code.StringLiteral
import DispatchLayer.Proofs.Code.Piece

/-!
# What a reader finds in the two files

Readers of the tokens of generated files. They look for the pieces that the wiring of a kind goes
through: the variants and labels of the node type, the conversions, the handler traits with their
methods, the handlers that are shared, the fields of the visitor, the methods that fill a field, and
the two distinctions of nodes with what they fall back on (`HandlersOutline`, `VisitorOutline`).
Types are given by their tokens. A reader answers `none` where a piece has another form than the one
it is looking for, so what is read is really there.
-/

namespace DispatchLayer.Emission

open Code

/-! ## Outlines -/

/-- A method with the type of the node it is given. -/
structure Method where
  name : String
  input : List Token

/-- A conversion into the node type: the variant it makes, the type it is declared for, and the type
of its parameter. -/
structure Conversion where
  variant : String
  source : List Token
  input : List Token

/-- What the handlers file says. -/
structure HandlersOutline where
  /-- The variants of the node type, with the types of what they hold. -/
  variants : List (String × List Token)
  /-- The arms of `kind`, with the texts that the literals stand for. -/
  labels : List (String × String)
  conversions : List Conversion
  /-- The traits with their methods. -/
  traits : List (String × List Method)

/-- A method that takes a handler and puts it into one field: the type of the handler, and the
field. -/
structure Registration where
  input : List Token
  slot : String

/-- A call of a method on what a field holds. -/
structure SlotCall where
  slot : String
  method : String
  deriving DecidableEq

/-- A distinction of nodes by their variants, and what it falls back on. -/
structure Distinction (α : Type) where
  /-- The arms; `none` is that of a variant without a field. -/
  arms : List (String × Option α)
  fallback : α

/-- What the visitor file says. -/
structure VisitorOutline where
  /-- The traits that shared handlers implement by handing the node on, with the methods. -/
  shared : List (String × List Method)
  /-- The fields of the visitor with their types. -/
  slots : List (String × List Token)
  registrations : List (String × Registration)
  /-- The fields that `has_handler_for` tests. -/
  presence : Distinction String
  /-- The calls that `visit` makes. -/
  dispatch : Distinction SlotCall

/-! ## The handlers file -/

/-- A variant that holds one thing. -/
def variant? (p : Piece) : Option (String × List Token) := do
  let [[.ident name], type] ← p.line? "$ ( $ )" | none
  return (name, type)

/-- The variants of the node type. -/
def variants? (p : Piece) : Option (List (String × List Token)) := do
  let ([], inside) ← p.block? "pub enum Node< 'ast>" | none
  (fieldPieces inside).mapM variant?

/-- An arm that answers with a label. -/
def labelArm? (p : Piece) : Option (String × String) := do
  let [[.ident variant], [.literal text]] ← p.line? "Node:: $ (_) => $" | none
  return (variant, ← stringLiteralText? text)

/-- The labels of nodes. -/
def labels? (p : Piece) : Option (List (String × String)) := do
  let ([], inside) ← p.block? "impl< 'ast> Node< 'ast>" | none
  let [method] := itemPieces inside | none
  let ([], body) ← method.block? "pub fn kind(&self) -> & 'static str" | none
  let [answer] := itemPieces body | none
  let ([], arms) ← answer.block? "match self" | none
  (armPieces arms).mapM labelArm?

/-- A conversion into the node type. -/
def conversion? (p : Piece) : Option Conversion := do
  let ([source], inside) ← p.block? "impl< 'ast> ::core::convert::From< $ > for Node< 'ast>" | none
  let [method] := itemPieces inside | none
  let ([input], body) ← method.block? "fn from(node: $ ) -> Self" | none
  let [answer] := itemPieces body | none
  let [[.ident variant]] ← answer.line? "Node:: $ (node)" | none
  return ⟨variant, source, input⟩

/-- A method of a trait. -/
def method? (p : Piece) : Option Method := do
  let [[.ident name], input] ← p.line? "fn $ (&mut self, node: $ ) -> bool" | none
  return ⟨name, input⟩

/-- A trait and its methods. -/
def trait? (p : Piece) : Option (String × List Method) := do
  let ([[.ident name]], inside) ← p.block? "pub trait $" | none
  return (name, ← (itemPieces inside).mapM method?)

/-- Read the handlers file. There is one node type, and one place that gives it methods. -/
def HandlersOutline.read? (ts : List Token) : Option HandlersOutline := do
  let [variants] := (itemPieces ts).filterMap variants? | none
  let [labels] := (itemPieces ts).filterMap labels? | none
  return ⟨variants, labels, (itemPieces ts).filterMap conversion?, (itemPieces ts).filterMap trait?⟩

/-! ## The visitor file -/

/-- A method of a trait that hands the node on to the same method of the handler inside. -/
def forwarding? (traitName : String) (p : Piece) : Option Method := do
  let ([[.ident name], input], body) ← p.block? "fn $ (&mut self, node: $ ) -> bool" | none
  let [answer] := itemPieces body | none
  let [[.ident owner], [.ident method]] ←
    answer.line? "<T as $ > :: $ (&mut *self.0.borrow_mut(), node)" | none
  if owner = traitName ∧ method = name then return ⟨name, input⟩ else none

/-- A trait that shared handlers implement, and its methods. -/
def shared? (p : Piece) : Option (String × List Method) := do
  let ([[.ident bound], [.ident name]], inside) ← p.block? "impl<T: $ > $ for Shared<T>" | none
  let methods ← (itemPieces inside).mapM (forwarding? name)
  if bound = name then return (name, methods) else none

/-- A field and its type. -/
def slot? (p : Piece) : Option (String × List Token) := do
  let [[.ident name], type] ← p.line? "$ : $" | none
  return (name, type)

/-- The fields of the visitor. -/
def slots? (p : Piece) : Option (List (String × List Token)) := do
  let ([], inside) ← p.block? "pub struct Visitor< 'h>" | none
  (fieldPieces inside).mapM slot?

/-- The functions of the visitor. -/
def visitorMethods? (p : Piece) : Option (List Piece) := do
  let ([], inside) ← p.block? "impl< 'h> Visitor< 'h>" | none
  return itemPieces inside

/-- A method that fills one field with the handler it is given, and does nothing else. -/
def registration? (p : Piece) : Option (String × Registration) := do
  let ([[.ident name], input], body) ←
    p.block? "pub fn $ (&mut self, handler: $ ) -> &mut Self" | none
  let [effect, answer] := itemPieces body | none
  let [[.ident slot]] ← effect.line? "self. $ = Some(Box::new(handler))" | none
  let [] ← answer.line? "self" | none
  return (name, ⟨input, slot⟩)

/-- The field that is tested for a handler, or `none` where the answer is just no. -/
def test? (ts : List Token) : Option (Option String) :=
  match capturesOf "self. $ .is_some()" ts with
  | some [[.ident slot]] => some (some slot)
  | _ => (capturesOf "false" ts).map fun _ => none

/-- An arm of `has_handler_for`. -/
def presenceArm? (p : Piece) : Option (String × Option String) := do
  let [[.ident variant], test] ← p.line? "Node:: $ (_) => $" | none
  return (variant, ← test? test)

/-- The fields that `has_handler_for` tests: that of the arm, and else the one it falls back on. -/
def presence? (p : Piece) : Option (Distinction String) := do
  let ([], body) ← p.block? "pub fn has_handler_for(&self, node: Node< '_>) -> bool" | none
  let [distinction, stop, answer] := itemPieces body | none
  let ([], arms) ← distinction.block? "let specific = match node" | none
  let [] ← stop.line? "" | none
  let [[.ident fallback]] ← answer.line? "specific || self. $ .is_some()" | none
  return ⟨← (armPieces arms).mapM presenceArm?, fallback⟩

/-- The call in the braces of an arm, which is made if the field holds a handler. Its answer is that
of the visit. -/
def ownCall? (ts : List Token) : Option SlotCall := do
  let [condition] := itemPieces ts | none
  let ([[.ident slot]], body) ← condition.block? "if let Some(h) = self. $ .as_deref_mut()" | none
  let [answer] := itemPieces body | none
  let [[.ident method]] ← answer.line? "return Continuation::from(h. $ (n))" | none
  return ⟨slot, method⟩

/-- An arm of `visit`. One that calls nothing has nothing in its braces. -/
def dispatchArm? (p : Piece) : Option (String × Option SlotCall) :=
  match p.block? "Node:: $ (n) =>" with
  | some ([[.ident variant]], body) => (ownCall? body).map fun call => (variant, some call)
  | _ => do
    let ([[.ident variant]], []) ← p.block? "Node:: $ (_) =>" | none
    return (variant, none)

/-- The calls that `visit` makes: that of the arm, and else the one it falls back on. -/
def dispatch? (p : Piece) : Option (Distinction SlotCall) := do
  let ([], body) ← p.block? "pub fn visit(&mut self, node: Node< '_>) -> Continuation" | none
  let [distinction, fallback] := itemPieces body | none
  let ([], arms) ← distinction.block? "match node" | none
  let ([[.ident slot]], choices) ← fallback.block? "match self. $ .as_deref_mut()" | none
  let [call, nothing] := armPieces choices | none
  let [[.ident method]] ← call.line? "Some(h) => Continuation::from(h. $ (node))" | none
  let [] ← nothing.line? "None => Continuation::Continue" | none
  return ⟨← (armPieces arms).mapM dispatchArm?, ⟨slot, method⟩⟩

/-- Read the visitor file. There is one visitor, one place that gives it methods, and one of each of
the two distinctions. -/
def VisitorOutline.read? (ts : List Token) : Option VisitorOutline := do
  let [slots] := (itemPieces ts).filterMap slots? | none
  let [methods] := (itemPieces ts).filterMap visitorMethods? | none
  let [presence] := methods.filterMap presence? | none
  let [dispatch] := methods.filterMap dispatch? | none
  return ⟨(itemPieces ts).filterMap shared?, slots, methods.filterMap registration?, presence,
    dispatch⟩

end DispatchLayer.Emission
