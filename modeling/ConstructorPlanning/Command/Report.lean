import ConstructorPlanning.Command.Colour
import ConstructorPlanning.Planning.Format
/-!
Reports: the plans for a type, written as text for a reader or as JSON for a program.
-/
namespace ConstructorPlanning.Command

structure Report where
  typeName : String
  plans : List Plan
  deriving DecidableEq, Repr

namespace Report

def line (text : String) : String :=
  "\n    " ++ text

def assignment (color : Bool) (p : GeneratedParameter) : String :=
  line (p.member ++ " " ++ Style.dimmed.paintIf color "=" ++ " " ++ p.name)

def delegateCall (color : Bool) (delegate : Constructor) (arguments : List DelegateArgument) :
    String :=
  let passed := ", ".intercalate (arguments.map fun a => a.parameter.getD "default")
  let order := toString delegate.declarationOrder
  let call := s!"this({passed})  // constructor #{order} ({delegate.signature})"
  line (Style.dimmed.paintIf color call)

/-- The lines of a plan below its title. -/
def body (color : Bool) : Plan → List String
  | .noParam => []
  | .fieldAssign parameters => parameters.map (assignment color)
  | .delegateThenAssign delegate _ arguments residual =>
    delegateCall color delegate arguments :: residual.map (assignment color)

def planText (color : Bool) (typeName : String) (plan : Plan) : String :=
  String.join (Style.boldGreen.paintIf color (plan.title typeName) :: body color plan)

def text (color : Bool) (r : Report) : String :=
  if r.plans.isEmpty then
    s!"No constructors to generate for '{r.typeName}'."
  else
    "\n".intercalate (r.plans.map (planText color r.typeName))

/-- A plan with its title in front. -/
def planJson (typeName : String) (plan : Plan) : Json :=
  .object (("title", .string (plan.title typeName)) :: plan.entries)

def toJson (r : Report) : Json :=
  .object [("typeName", .string r.typeName), ("plans", .array (r.plans.map (planJson r.typeName)))]

def json (r : Report) : String :=
  r.toJson.pretty

end Report

end ConstructorPlanning.Command
