import ConstructorPlanning.Planning.Note
import ConstructorPlanning.Planning.Plan
import ConstructorPlanning.Snapshot.Format
/-!
The JSON form of options and plans. A plan is an object whose key `kind` says which plan it is; the
key may stand anywhere in the object. Because of that the other entries are held until the end of
the object is reached, so each of them has to be well-formed as a whole, also where the plan does
not declare it.
-/
namespace ConstructorPlanning

open Json

namespace Options

def toJson (o : Options) : Json :=
  .object [
    ("validateSelection", .boolean o.validateSelection),
    ("offerDelegation", .boolean o.offerDelegation)]

def shape : RecordShape Options where
  title := "struct PlannerOptions"
  blank := {}
  fields := [
    .defaulted "validateSelection" Reader.boolean fun v o => { o with validateSelection := v },
    .defaulted "offerDelegation" Reader.boolean fun v o => { o with offerDelegation := v }]

def read : Reader Options :=
  shape.read

end Options

namespace GeneratedParameter

def toJson (p : GeneratedParameter) : Json :=
  .object [("name", .string p.name), ("type", .string p.type), ("member", .string p.member)]

def shape : RecordShape GeneratedParameter where
  title := "struct GeneratedParameter"
  blank := { name := "", type := "", member := "" }
  fields := [
    .required "name" Reader.string fun v p => { p with name := v },
    .required "type" Reader.string fun v p => { p with type := v },
    .required "member" Reader.string fun v p => { p with member := v }]

def read : Reader GeneratedParameter :=
  shape.read

end GeneratedParameter

namespace DelegateArgument

def toJson (a : DelegateArgument) : Json :=
  .object [
    ("position", .natural a.position),
    ("delegateParameter", .string a.delegateParameter),
    ("member", Json.optionalString a.member),
    ("parameter", Json.optionalString a.parameter)]

/-- The fields of an argument; whether the two optional ones have to be there depends on how it is
written. -/
def shapeWith (optionalField : String → Reader (Option String) →
    (Option String → DelegateArgument → DelegateArgument) → RecordField DelegateArgument) :
    RecordShape DelegateArgument where
  title := "struct DelegateArgument"
  blank := { position := 0, delegateParameter := "", member := none, parameter := none }
  fields := [
    .required "position" Reader.position fun v a => { a with position := v },
    .required "delegateParameter" Reader.string fun v a => { a with delegateParameter := v },
    optionalField "member" (Reader.optional Reader.string) fun v a => { a with member := v },
    optionalField "parameter" (Reader.optional Reader.string) fun v a => { a with parameter := v }]

/-- Reads an argument. An object may leave out the member and the parameter, an array may not. -/
def read : Reader DelegateArgument
  | .array items ending => (shapeWith RecordField.required).readArray items ending
  | d => (shapeWith RecordField.defaulted).read d

end DelegateArgument

namespace Plan

/-- The entries of a plan, of which the first names its kind. -/
def entries (plan : Plan) : List (String × Json) :=
  ("kind", .string plan.kindName) :: match plan with
    | fieldAssign parameters =>
      [("parameters", .array (parameters.map GeneratedParameter.toJson))]
    | delegateThenAssign delegate parameters arguments residual => [
      ("delegate", delegate.toJson),
      ("parameters", .array (parameters.map GeneratedParameter.toJson)),
      ("delegateArguments", .array (arguments.map DelegateArgument.toJson)),
      ("residual", .array (residual.map GeneratedParameter.toJson))]
    | noParam => []

def toJson (plan : Plan) : Json :=
  .object plan.entries

inductive Kind where
  | fieldAssign
  | delegateThenAssign
  | noParam
  deriving DecidableEq, Repr

def kinds : List (String × Kind) :=
  [("fieldAssign", .fieldAssign), ("delegateThenAssign", .delegateThenAssign),
    ("noParam", .noParam)]

def readKind : Reader Kind
  | .string (some name) => Reader.variant kinds name
  | d => .error (d.unexpected "variant identifier")

/-- The containers that may stand inside each other in a plan, the plan's own among them. -/
def maxDepth : Nat := 127

mutual

/-- Whether a value is well-formed to its end and holds at most `depth` containers inside each
other. -/
def isHoldable (depth : Nat) : Draft → Bool
  | .null | .boolean _ => true
  | .number n => (Numeric.ofText? n).isSome
  | .string s => s.isSome
  | .array items ending => 0 < depth && areHoldable (depth - 1) items && ending = .closed
  | .object entries ending =>
    0 < depth && areHoldableEntries (depth - 1) entries && ending = .closed
  | .broken => false

def areHoldable (depth : Nat) : List Draft → Bool
  | [] => true
  | d :: rest => isHoldable depth d && areHoldable depth rest

def areHoldableEntries (depth : Nat) : List (Quoted × Draft) → Bool
  | [] => true
  | (key, d) :: rest => key.isSome && isHoldable depth d && areHoldableEntries depth rest

end

/-- Holds the entries of a plan besides the one that names its kind. -/
def holdEntries (kind : Option Kind) :
    List (Quoted × Draft) → Except Fault (Option Kind × List (Quoted × Draft))
  | [] => .ok (kind, [])
  | (key, d) :: rest =>
    if key = some "kind".toList then
      if kind.isSome then
        .error (.duplicateField "kind")
      else do
        let kind ← readKind d
        holdEntries (some kind) rest
    else if key.isSome && isHoldable (maxDepth - 1) d then do
      let (kind, held) ← holdEntries kind rest
      return (kind, (key, d) :: held)
    else
      .error .malformed

def fieldAssignShape : RecordShape (List GeneratedParameter) where
  title := "struct variant Plan::FieldAssign"
  blank := []
  fields := [.required "parameters" (Reader.list GeneratedParameter.read) fun v _ => v]

structure Delegating where
  delegate : Constructor := { declarationOrder := 0 }
  parameters : List GeneratedParameter := []
  arguments : List DelegateArgument := []
  residual : List GeneratedParameter := []

def delegatingShape : RecordShape Delegating where
  title := "struct variant Plan::DelegateThenAssign"
  blank := {}
  fields := [
    .required "delegate" Constructor.read fun v p => { p with delegate := v },
    .required "parameters" (Reader.list GeneratedParameter.read)
      fun v p => { p with parameters := v },
    .required "delegateArguments" (Reader.list DelegateArgument.read)
      fun v p => { p with arguments := v },
    .required "residual" (Reader.list GeneratedParameter.read)
      fun v p => { p with residual := v }]

/-- Reads the held part of a plan of a kind. A plan without parameters passes over the entries of an
object but takes no items. -/
def readHeld (kind : Kind) (held : Draft) : Except Fault Plan :=
  Except.mapError Fault.inHeldValue <|
    match kind, held with
    | .fieldAssign, held => fieldAssign <$> fieldAssignShape.read held
    | .delegateThenAssign, held =>
      (fun p => delegateThenAssign p.delegate p.parameters p.arguments p.residual) <$>
        delegatingShape.read held
    | .noParam, .array (d :: items) _ => .error (.surplusItems (d :: items).length 0)
    | .noParam, _ => .ok noParam

/-- Reads a plan: an object, or an array of its kind and its fields. -/
def read : Reader Plan
  | .object entries ending => do
    let (kind, held) ← holdEntries none entries
    Reader.checkEnding ending
    match kind with
    | some kind => readHeld kind (.object held .closed)
    | none => .error (.missingField "kind")
  | .array [] ending => do
    Reader.checkEnding ending
    .error (.missingField "kind")
  | .array (d :: items) ending => do
    let kind ← readKind d
    if areHoldable (maxDepth - 1) items then
      Reader.checkEnding ending
      readHeld kind (.array items .closed)
    else
      .error .malformed
  | d => .error (d.unexpected "internally tagged enum Plan")

end Plan

end ConstructorPlanning
