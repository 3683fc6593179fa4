import ConstructorPlanning.Planning.Refusal
import ConstructorPlanning.Text.Quoted
/-!
The options of planning, and its log: what is noted, inside which calls, and how a record of it
reads.
-/
namespace ConstructorPlanning

/-- What a caller may switch off. Both checks and offers are on unless they are switched off. -/
structure Options where
  /-- Refuse a chosen list that repeats a member or names one that is not viable. -/
  validateSelection : Bool := true
  /-- Offer a constructor that delegates to a narrower existing one. -/
  offerDelegation : Bool := true
  deriving DecidableEq, Repr

inductive Note where
  | collectedViable (typeName : String) (total viable : Nat)
  | disambiguated (base name : String)
  | exactMatch (declarationOrder : UInt32)
  | delegationTarget (declarationOrder : UInt32) (delegated residual : Nat)
  | leftUnbound (position : Nat) (parameter : String)
  | nothingViable
  | plansReady (selected plans : Nat)
  | cancellationObserved
  | nothingOffered (reason : Refusal)
  | planningStarted (typeName : String) (config : Option String) (options : Options)
  deriving DecidableEq, Repr

/-- A call that encloses the notes made during it. -/
inductive Call where
  | plan (typeName : String) (explicit : Nat)
  | planWithPicker (typeName : String)
  deriving DecidableEq, Repr

/-- A record of the log: a call that begins, or a note with the calls around it, outermost first. -/
inductive Record where
  | entered (call : Call)
  | noted (note : Note) (within : List Call)
  deriving DecidableEq, Repr

inductive Level where
  | trace
  | debug
  | info
  deriving DecidableEq, Repr

inductive FieldValue where
  | number (n : Nat)
  | text (s : String)
  deriving DecidableEq, Repr

namespace Level

def label : Level → String
  | trace => "TRACE"
  | debug => "DEBUG"
  | info => "INFO"

end Level

namespace Options

def logText (o : Options) : String :=
  "PlannerOptions \x7b validate_selection: " ++ toString o.validateSelection
    ++ ", offer_delegation: " ++ toString o.offerDelegation ++ " \x7d"

end Options

namespace Note

def message : Note → String
  | collectedViable .. => "collected viable members"
  | disambiguated .. => "disambiguated parameter name"
  | exactMatch .. => "existing constructor assigns exactly the selected members"
  | delegationTarget .. => "selected delegation target"
  | leftUnbound .. => "delegate parameter left unbound"
  | nothingViable => "no viable members; offering parameterless constructor"
  | plansReady .. => "constructor plans ready"
  | cancellationObserved => "cancellation observed"
  | nothingOffered .. => "no constructor plans offered"
  | planningStarted .. => "planning constructors"

def level : Note → Level
  | collectedViable .. | disambiguated .. => .trace
  | planningStarted .. => .info
  | _ => .debug

/-- The part of the program that a note belongs to. -/
def target : Note → String
  | collectedViable .. => "ctorgen_core::members"
  | disambiguated .. => "ctorgen_core::naming"
  | exactMatch .. | delegationTarget .. => "ctorgen_core::matcher"
  | leftUnbound .. => "ctorgen_core::synthesizer"
  | nothingViable | plansReady .. | nothingOffered .. => "ctorgen_core::planner"
  | cancellationObserved => "ctorgen_core::cancellation"
  | planningStarted .. => "ctorgen_cli::driver"

def fields : Note → List (String × FieldValue)
  | collectedViable typeName total viable =>
    [("type_name", .text typeName), ("total", .number total), ("viable", .number viable)]
  | disambiguated base name => [("base", .text base), ("name", .text name)]
  | exactMatch order => [("declaration_order", .number order.toNat)]
  | delegationTarget order delegated residual =>
    [("declaration_order", .number order.toNat), ("delegated", .number delegated),
      ("residual", .number residual)]
  | leftUnbound position parameter =>
    [("position", .number position), ("delegate_parameter", .text parameter)]
  | plansReady selected plans => [("selected", .number selected), ("plans", .number plans)]
  | nothingOffered reason => [("reason", .text reason.message)]
  | planningStarted typeName config options =>
    let configText := match config with
      | none => "None"
      | some path => "Some(" ++ Text.quoted path ++ ")"
    [("type_name", .text typeName), ("config", .text configText),
      ("options", .text options.logText)]
  | nothingViable | cancellationObserved => []

end Note

namespace Call

def name : Call → String
  | plan .. => "try_plan"
  | planWithPicker .. => "try_plan_with_picker"

def level : Call → Level
  | plan .. | planWithPicker .. => .debug

def target : Call → String
  | plan .. | planWithPicker .. => "ctorgen_core::planner"

def fields : Call → List (String × FieldValue)
  | plan typeName explicit => [("type_name", .text typeName), ("explicit", .number explicit)]
  | planWithPicker typeName => [("type_name", .text typeName)]

end Call

namespace Record

/-- The record as it stands inside one more call. -/
def inside (call : Call) : Record → Record
  | entered c => entered c
  | noted note calls => noted note (call :: calls)

end Record

end ConstructorPlanning
