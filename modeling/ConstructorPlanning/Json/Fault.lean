import ConstructorPlanning.Decimal.Shortest
import ConstructorPlanning.Json.Numeric
import ConstructorPlanning.Text.Quoted
/-!
Why a text does not hold the shape that is read from it. A fault is either a breach of the grammar,
which has no wording of its own, or a value that the shape does not allow.
-/
namespace ConstructorPlanning.Json

inductive Found where
  | null
  | boolean (b : Bool)
  | number (n : Numeric)
  | string (s : String)
  | sequence
  | map
  deriving DecidableEq, Repr

inductive Fault where
  /-- The text breaks the grammar, ends too early, or goes on behind its value. -/
  | malformed
  /-- A record written as an array of `count` items has fields for `expected` of them only. -/
  | surplusItems (count expected : Nat)
  | missingField (name : String)
  | duplicateField (name : String)
  | unknownField (name : String) (expected : List String)
  | unknownVariant (name : String) (expected : List String)
  | invalidType (found : Found) (expected : String)
  | invalidValue (found : Found) (expected : String)
  | invalidLength (length : Nat) (expected : String)
  deriving DecidableEq, Repr

def Found.message : Found → String
  | null => "null"
  | boolean b => s!"boolean `{b}`"
  | number (.natural n) => s!"integer `{n}`"
  | number (.negative n) => s!"integer `-{n}`"
  | number (.real negative x) =>
    "floating point `" ++ Decimal.written .message negative x ++ "`"
  | string s => "string " ++ Text.quoted s
  | sequence => "sequence"
  | map => "map"

namespace Fault

def nameList (names : List String) : String :=
  ", ".intercalate (names.map fun name => s!"`{name}`")

def choice : List String → String
  | [] => "there are none"
  | [name] => s!"expected `{name}`"
  | [first, second] => s!"expected `{first}` or `{second}`"
  | names => "expected one of " ++ nameList names

/-- Counted items, with the noun in the right number. -/
def counted (noun : String) : Nat → String
  | 1 => s!"1 {noun}"
  | n => s!"{n} {noun}s"

/-- The wording of a fault; a breach of the grammar has none. -/
def message? : Fault → Option String
  | malformed | surplusItems .. => none
  | missingField name => some s!"missing field `{name}`"
  | duplicateField name => some s!"duplicate field `{name}`"
  | unknownField name expected => some s!"unknown field `{name}`, {choice expected}"
  | unknownVariant name expected => some s!"unknown variant `{name}`, {choice expected}"
  | invalidType found expected => some s!"invalid type: {found.message}, expected {expected}"
  | invalidValue found expected => some s!"invalid value: {found.message}, expected {expected}"
  | invalidLength length expected => some s!"invalid length {length}, expected {expected}"

def chainText (fault : Fault) : String :=
  fault.message?.getD "JsonSyntax"

/-- The fault as it stands in a value that was read as a whole before: surplus items are counted
there. -/
def inHeldValue : Fault → Fault
  | surplusItems count expected =>
    invalidLength count (counted "element" expected ++ " in sequence")
  | fault => fault

end Fault

end ConstructorPlanning.Json
