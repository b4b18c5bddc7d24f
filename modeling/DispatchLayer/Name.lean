import DispatchLayer.Token.Scan
import DispatchLayer.Token
import DispatchLayer.Text.Quoted

/-!
# Name tokens

A name token is made from a string that spells a name; the mark `r#` in front makes it raw. A string
that spells none gives no token: the empty string, a number, anything that is not an identifier, and
the raw form of a word that has none. Emission ends at the first such string (`NameError.message` is
what it reports).
-/

namespace DispatchLayer

/-- Why a string gives no name token. -/
inductive NameError where
  | empty
  | number
  | malformed (name : String)
  | notRaw (name : String)
  deriving DecidableEq, Repr

/-- The report about a string that gives no name token. -/
def NameError.message : NameError → String
  | .empty => "Ident is not allowed to be empty; use Option<Ident>"
  | .number => "Ident cannot be a number; use Literal instead"
  | .malformed name => Text.quoted name ++ " is not a valid Ident"
  | .notRaw name => "`r#" ++ name ++ "` cannot be a raw identifier"

namespace Name

/-- Whether the characters spell a name. -/
def isIdentifier : List Char → Bool
  | [] => false
  | c :: cs => Scan.isNameStart c && cs.all Scan.isNameContinue

/-- Check a name without raw mark. -/
def check (name : String) : Except NameError Unit :=
  if name.isEmpty then .error .empty
  else if name.toList.all Char.isDigit then .error .number
  else if isIdentifier name.toList then .ok ()
  else .error (.malformed name)

/-- Split off one raw mark. -/
def splitRaw (name : String) : Bool × String :=
  match name.toList with
  | 'r' :: '#' :: rest => (true, String.ofList rest)
  | _ => (false, name)

/-- Whether a string spells a name token, and if not, why. -/
def validate (name : String) : Except NameError Unit :=
  match splitRaw name with
  | (false, plain) => check plain
  | (true, raw) =>
    match check raw with
    | .error e => .error e
    | .ok () => if Scan.notRaw.contains raw then .error (.notRaw raw) else .ok ()

/-- The string itself, if it spells a name token. -/
def make (name : String) : Except NameError String :=
  match validate name with
  | .ok () => .ok name
  | .error e => .error e

end Name

end DispatchLayer
