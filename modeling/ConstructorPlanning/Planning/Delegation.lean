import ConstructorPlanning.Planning.ParameterName
import ConstructorPlanning.Planning.Plan
/-!
Arguments of a delegating call. The members that the delegate assigns are handed to its parameters
in three passes, each of which sees only what the passes before left open: first as the delegate's
parameters are annotated, then by name, then by type.
-/
namespace ConstructorPlanning.Delegation

/-- A generated parameter for a member that the delegate assigns, with its place among those. -/
abbrev Candidate := GeneratedParameter × Nat

/-- A parameter of the delegate and the candidate bound to it. -/
structure Slot where
  parameter : Parameter
  bound : Option Candidate := none
  deriving DecidableEq, Repr

/-- The generated parameters for members that the delegate assigns, in order. -/
def candidates (delegate : Constructor) (parameters : List GeneratedParameter) : List Candidate :=
  (parameters.filter fun p => delegate.assignedMembers.contains p.member).zipIdx

def isAnnotatedFor (p : Parameter) (c : GeneratedParameter) : Bool :=
  p.member = some c.member

/-- The delegate's parameter has no annotation and is named after the candidate's member. -/
def isNamedFor (p : Parameter) (c : GeneratedParameter) : Bool :=
  p.member.isNone && (p.name = c.member || p.name = ParameterName.ofMember c.member)

/-- The delegate's parameter has no annotation and is of the candidate's type. -/
def isTypedFor (p : Parameter) (c : GeneratedParameter) : Bool :=
  p.member.isNone && p.type = c.type

/-- The places of the candidates that slots are bound to. -/
def taken (slots : List Slot) : List Nat :=
  slots.filterMap fun slot => slot.bound.map (·.2)

/-- Goes through the slots and binds each open one to the first candidate that fits it and is not
yet taken. -/
def bindOpen (fits : Parameter → GeneratedParameter → Bool) (candidates : List Candidate) :
    List Nat → List Slot → List Slot
  | _, [] => []
  | used, slot :: rest =>
    match slot.bound with
    | some _ => slot :: bindOpen fits candidates used rest
    | none =>
      match candidates.find? fun c => !used.contains c.2 && fits slot.parameter c.1 with
      | some c => ⟨slot.parameter, some c⟩ :: bindOpen fits candidates (c.2 :: used) rest
      | none => slot :: bindOpen fits candidates used rest

def bindPass (fits : Parameter → GeneratedParameter → Bool) (candidates : List Candidate)
    (slots : List Slot) : List Slot :=
  bindOpen fits candidates (taken slots) slots

/-- The delegate's parameters with what the three passes bind to them. -/
def bindSlots (delegate : Constructor) (parameters : List GeneratedParameter) : List Slot :=
  let slots := delegate.parameters.map fun p => { parameter := p }
  let cs := candidates delegate parameters
  bindPass isTypedFor cs (bindPass isNamedFor cs (bindPass isAnnotatedFor cs slots))

def argument (slot : Slot) (position : Nat) : DelegateArgument where
  position
  delegateParameter := slot.parameter.name
  member := slot.bound.map (·.1.member)
  parameter := slot.bound.map (·.1.name)

/-- The arguments of the call to the delegate, one for each of its parameters in their order. -/
def arguments (delegate : Constructor) (parameters : List GeneratedParameter) :
    List DelegateArgument :=
  (bindSlots delegate parameters).zipIdx.map fun (slot, position) => argument slot position

end ConstructorPlanning.Delegation
