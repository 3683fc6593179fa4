import ConstructorPlanning.Planning.Delegation
import ConstructorPlanning.Planning.Match
/-!
Plans for a selection, given how it compares with the existing constructors.
-/
namespace ConstructorPlanning

/-- A note for each entry that did not keep its base as name. -/
def ParameterName.namingNotes (namings : List ParameterName.Naming) : List Note :=
  (namings.filter fun n => n.name ≠ n.base).map fun n => .disambiguated n.base n.name

/-- A note for each argument that has no parameter to pass. -/
def Delegation.unboundNotes (arguments : List DelegateArgument) : List Note :=
  (arguments.filter (·.parameter.isNone)).map fun a => .leftUnbound a.position a.delegateParameter

namespace Selection

def parameterFor (m : Member) (naming : ParameterName.Naming) : GeneratedParameter :=
  ⟨naming.name, m.type, m.name⟩

/-- A parameter for each selected member, in order, with pairwise distinct names. -/
def parameters (s : Selection) : List GeneratedParameter :=
  s.members.zipWith parameterFor (ParameterName.ofMembers s.names)

/-- The parameters, with notes of the names that had to be told apart. -/
def generateParameters (s : Selection) : Procedure (List GeneratedParameter) := do
  Procedure.notes (ParameterName.namingNotes (ParameterName.ofMembers s.names))
  return s.parameters

def parametersOf (parameters : List GeneratedParameter) (members : List Member) :
    List GeneratedParameter :=
  members.filterMap fun m => parameters.find? (·.member = m.name)

end Selection

/-- The arguments of a delegating call, with notes of the places that are left open. -/
def Delegation.bindArguments (delegate : Constructor) (parameters : List GeneratedParameter) :
    Procedure (List DelegateArgument) := do
  let arguments := Delegation.arguments delegate parameters
  Procedure.notes (unboundNotes arguments)
  return arguments

/-- The plan that calls a delegate for its members and assigns the residual ones. -/
def Plan.delegating (delegate : Constructor) (parameters : List GeneratedParameter)
    (residual : List Member) : Procedure Plan := do
  let arguments ← Delegation.bindArguments delegate parameters
  let rest := Selection.parametersOf parameters residual
  return .delegateThenAssign delegate parameters arguments rest

/-- The plans to offer: the assigning constructor, then the delegating one where a delegate was
found. The empty selection gives the parameterless constructor alone, an exact match gives nothing.
-/
def Selection.synthesize (o : Options) (s : Selection) (found : Match) : Procedure (List Plan) :=
  if s.isEmpty then
    return [.noParam]
  else do
    let parameters ← s.generateParameters
    match found with
    | .exact _ => return []
    | .nothing => return [.fieldAssign parameters]
    | .delegatable delegate residual =>
      if o.offerDelegation then do
        let plan ← Plan.delegating delegate parameters residual
        return [.fieldAssign parameters, plan]
      else
        return [.fieldAssign parameters]

end ConstructorPlanning
