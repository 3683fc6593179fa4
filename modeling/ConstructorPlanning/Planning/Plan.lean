import ConstructorPlanning.Snapshot.Constructor
/-!
Plans of constructors to generate. A plan describes a constructor and leaves its source text to
others.
-/
namespace ConstructorPlanning

/-- A parameter of the constructor to generate, and the member that it initializes. -/
structure GeneratedParameter where
  name : String
  type : String
  member : String
  deriving DecidableEq, Repr

structure DelegateArgument where
  /-- The place among the delegate's parameters, counted from zero. -/
  position : Nat
  delegateParameter : String
  /-- The member that the delegate's parameter at this place stands for, if one was found. -/
  member : Option String
  /-- The generated parameter passed at this place; without one the type's default value is passed.
  -/
  parameter : Option String
  deriving DecidableEq, Repr

/-- A constructor to generate. -/
inductive Plan where
  /-- Every parameter is assigned to its member. -/
  | fieldAssign (parameters : List GeneratedParameter)
  /-- An existing constructor is called for some members, and the residual ones are assigned. -/
  | delegateThenAssign (delegate : Constructor) (parameters : List GeneratedParameter)
      (arguments : List DelegateArgument) (residual : List GeneratedParameter)
  /-- There is nothing to initialize. -/
  | noParam
  deriving DecidableEq, Repr

namespace Plan

def parameters : Plan → List GeneratedParameter
  | fieldAssign ps => ps
  | delegateThenAssign _ ps _ _ => ps
  | noParam => []

def parameterNames (plan : Plan) : List String :=
  plan.parameters.map (·.name)

def kindName : Plan → String
  | fieldAssign _ => "fieldAssign"
  | delegateThenAssign .. => "delegateThenAssign"
  | noParam => "noParam"

def isDelegating : Plan → Bool
  | delegateThenAssign .. => true
  | _ => false

def title (plan : Plan) (typeName : String) : String :=
  let signature := ", ".intercalate (plan.parameters.map (·.type))
  let kind := if plan.isDelegating then "delegating constructor" else "constructor"
  s!"Generate {kind} '{typeName}({signature})'"

end Plan

/-- The parameter that a generated one becomes, with or without the annotation of its member. -/
def GeneratedParameter.accepted (p : GeneratedParameter) (annotated : Bool) : Parameter where
  name := p.name
  type := p.type
  member := if annotated then some p.member else none

/-- The constructor that a type has once the plan is carried out. -/
def Plan.accepted (plan : Plan) (declarationOrder : UInt32) (annotated : Bool) : Constructor where
  declarationOrder
  parameters := plan.parameters.map fun p => p.accepted annotated
  assignedMembers := plan.parameters.map (·.member)

end ConstructorPlanning
