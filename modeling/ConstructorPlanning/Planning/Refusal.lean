/-!
Why a planning call offers nothing. Only `Refusal.cancelled` is a failure from the caller's point of
view: the other causes say that there is nothing to offer, and a folded call turns them into an
empty list.
-/
namespace ConstructorPlanning

/-- Why a type cannot receive a constructor. -/
inductive TargetFault where
  | wrongKind
  | staticType
  deriving DecidableEq, Repr

/-- Why there is no constructor left to generate. -/
inductive IdleCause where
  | parameterlessExists
  | selectionDismissed
  | sameConstructorExists
  deriving DecidableEq, Repr

inductive SelectionIssue where
  | duplicate
  | notViable
  | notFound
  deriving DecidableEq, Repr

/-- An outcome that stops a planning call short. -/
inductive Refusal where
  | invalidTarget (typeName : String) (fault : TargetFault)
  | nothingToGenerate (typeName : String) (cause : IdleCause)
  | invalidSelection (member : String) (issue : SelectionIssue)
  | unknownType (name : String)
  | cancelled
  deriving DecidableEq, Repr

def TargetFault.message : TargetFault → String
  | wrongKind => "only classes and structs declare constructors"
  | staticType => "static types have no instance constructors"

def IdleCause.message : IdleCause → String
  | parameterlessExists => "no viable members and an explicit parameterless constructor exists"
  | selectionDismissed => "member selection was dismissed"
  | sameConstructorExists => "a constructor assigning exactly these members already exists"

def SelectionIssue.message : SelectionIssue → String
  | duplicate => "selected more than once"
  | notViable => "not a writable instance field or property"
  | notFound => "not declared on the type"

def Refusal.message : Refusal → String
  | invalidTarget typeName fault =>
    s!"'{typeName}' cannot receive a generated constructor: {fault.message}"
  | nothingToGenerate typeName cause => s!"nothing to generate for '{typeName}': {cause.message}"
  | invalidSelection member issue => s!"member '{member}' is {issue.message}"
  | unknownType name => s!"no snapshot available for type '{name}'"
  | cancelled => "constructor planning was cancelled"

def Refusal.isCancellation : Refusal → Bool
  | cancelled => true
  | _ => false

end ConstructorPlanning
