import DispatchLayer.Code
import DispatchLayer.Code.NumberLiteral

/-!
# Shapes of expressions

Questions about expressions whose answers depend on their outermost form, or on a chain of forms
down the left or the right side. Attributes in front do not count, unless it is said.

An expression that ends in a block can be a statement without a semicolon, and the body of an arm
without a comma. Where such an expression begins a statement it ends there, whatever follows its
block.
-/

namespace DispatchLayer.Code.Expr

/-! ## Statements and arms -/

/-- Whether an expression needs no comma as the body of an arm. -/
def standsAlone (e : Expr) : Bool :=
  match e.withoutAttributes with
  | .ifThen .. => true
  | .matchOn .. => true
  | .block (.asyncBlock _) .. => false
  | .block .. => true
  | .whileLoop .. => true
  | .loop .. => true
  | .forLoop .. => true
  | _ => false

/-- Whether an expression needs no semicolon as a statement. -/
def isStatement (e : Expr) : Bool :=
  match e.withoutAttributes with
  | .macroCall m => m.delimiter == .brace
  | _ => e.standsAlone

/-- Whether an expression can begin a statement without ending early. -/
def startsStatement : Expr → Bool
  | .attributed _ e => e.startsStatement
  | .assign l _ => !l.isStatement && l.startsStatement
  | .binary _ l _ => !l.isStatement && l.startsStatement
  | .cast e _ => !e.isStatement && e.startsStatement
  | .range (some e) _ _ => !e.isStatement && e.startsStatement
  | .call f _ => !f.isStatement && f.startsStatement
  | .index base _ => !base.isStatement && base.startsStatement
  | .method receiver _ _ => receiver.startsStatement
  | .field base _ => base.startsStatement
  | .await e => e.startsStatement
  | .question e => e.startsStatement
  | _ => true

/-- Assignments that also compute. -/
def assigningOps : List String := ["+=", "-=", "*=", "/=", "%=", "^=", "&=", "|=", "<<=", ">>="]

/-- Whether a statement gets a semicolon that it may not have had. -/
def getsSemicolon (e : Expr) : Bool :=
  match e.withoutAttributes with
  | .assign .. => true
  | .binary op _ _ => assigningOps.contains op
  | .returnWith _ => true
  | .breakWith .. => true
  | .continueAt _ => true
  | .yieldWith _ => true
  | _ => false

/-- Whether a statement loses its semicolon: loops with an end, and conditionals without a final
alternative. -/
def losesSemicolon : Expr → Bool
  | .attributed _ e => e.losesSemicolon
  | .forLoop .. => true
  | .whileLoop .. => true
  | .ifThen _ _ none => true
  | .ifThen _ _ (some e) => e.losesSemicolon
  | _ => false

/-- Whether the body of an arm is a block, or stands for an empty one. -/
def isArmBlock : Expr → Bool
  | .tuple [] => true
  | e =>
    match e.withoutAttributes with
    | .block (.plain _) .. => true
    | _ => false

/-! ## Chains, arguments and conditions -/

/-- Whether an expression hangs something behind its first part. -/
def isLink (e : Expr) : Bool :=
  match e.withoutAttributes with
  | .await _ => true
  | .call .. => true
  | .field .. => true
  | .index .. => true
  | .method .. => true
  | .question _ => true
  | _ => false

/-- A name of at most one indentation, without attributes: what hangs behind it at the beginning of
a line needs no line of its own. -/
def isShortName (e : Expr) : Bool :=
  match e.asName? with
  | some n => n.utf8ByteSize ≤ 4
  | none => false

/-- Whether an expression brings brackets that already set it apart as a single argument, or as the
body of a closure. With attributes in front it does not. -/
def bringsBrackets : Expr → Bool
  | .array _ => true
  | .block .. => true
  | .closure .. => true
  | .record .. => true
  | .tuple _ => true
  | _ => false

/-- Whether the body of a closure needs no braces where it does not fit. -/
def isClosureBody : Expr → Bool
  | .matchOn .. => true
  | .call .. => true
  | e => e.bringsBrackets

/-- Whether an expression is a literal that can stand with others on one line of an array. -/
def isShortItem (e : Expr) : Bool :=
  match e.withoutAttributes with
  | .literal text => isShortLiteral text
  | _ => false

/-- Whether a condition that wraps needs a line end before its block. -/
def wrapsOpenly : Expr → Bool
  | .assign .. => true
  | .await _ => true
  | .binary .. => true
  | .cast .. => true
  | .field .. => true
  | .index .. => true
  | .method .. => true
  | .attributed _ e => e.wrapsOpenly
  | .breakWith _ (some e) => e.wrapsOpenly
  | .call f _ => f.wrapsOpenly
  | .letCondition _ e => e.wrapsOpenly
  | .paren e => e.wrapsOpenly
  | .range _ _ (some e) => e.wrapsOpenly
  | .rawReference _ e => e.wrapsOpenly
  | .reference _ e => e.wrapsOpenly
  | .returnWith (some e) => e.wrapsOpenly
  | .question e => e.wrapsOpenly
  | .unary _ e => e.wrapsOpenly
  | .yieldWith (some e) => e.wrapsOpenly
  | _ => false

end DispatchLayer.Code.Expr
