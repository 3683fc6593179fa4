import ConstructorPlanning.Planning.Procedure
import ConstructorPlanning.Planning.Selection
/-!
Which members a new constructor is to initialize. The caller lists them, or lets a picker choose
among the viable ones, or lists none and gets all viable ones. A type without viable members gives
the empty selection, unless it already has a parameterless constructor of its own.
-/
namespace ConstructorPlanning

namespace TypeSnapshot

/-- The members of the given names, in the order of the names; the first unknown name is refused. -/
def selectMembers (t : TypeSnapshot) (names : List String) : Except Refusal (List Member) :=
  names.mapM fun name =>
    match t.member? name with
    | some m => .ok m
    | none => .error (.invalidSelection name .notFound)

def checkTarget (t : TypeSnapshot) : Except Refusal Unit :=
  if !t.kind.supportsConstructors then
    .error (.invalidTarget t.name .wrongKind)
  else if t.isStatic then
    .error (.invalidTarget t.name .staticType)
  else
    .ok ()

/-- The issue with the first chosen member that repeats an earlier name or names no viable member;
`seen` holds the earlier names. -/
def firstIssue? (t : TypeSnapshot) (viable : List Member) (seen : List String) :
    List Member → Option (String × SelectionIssue)
  | [] => none
  | m :: rest =>
    if seen.contains m.name then
      some (m.name, .duplicate)
    else if viable.any (·.name = m.name) then
      t.firstIssue? viable (m.name :: seen) rest
    else
      some (m.name, if (t.member? m.name).isSome then .notViable else .notFound)

end TypeSnapshot

namespace Selection

/-- The viable members, with a note of how many there are. -/
def collectViable (t : TypeSnapshot) : Procedure (List Member) :=
  .note (.collectedViable t.name t.members.length t.viableMembers.length) (.done t.viableMembers)

/-- Refuses chosen members that repeat a name or are not all viable. -/
def checkChoice (t : TypeSnapshot) (chosen : List Member) : Procedure Unit := do
  let viable ← collectViable t
  match t.firstIssue? viable [] chosen with
  | some (name, issue) => .refuse (.invalidSelection name issue)
  | none => return

/-- The selection of chosen members, checked against the type if the options ask for it. -/
def ofChoice (o : Options) (t : TypeSnapshot) (chosen : List Member) : Procedure Selection :=
  if o.validateSelection then do
    checkChoice t chosen
    return ofMembers chosen
  else
    return ofMembers chosen

/-- The selection for a type that has no viable member. -/
def ofNothing (t : TypeSnapshot) : Procedure Selection :=
  if t.explicitParameterless?.isSome then
    .refuse (.nothingToGenerate t.name .parameterlessExists)
  else
    .done empty

/-- The selection of an explicit list; the empty list stands for all viable members. -/
def ofExplicit (o : Options) (t : TypeSnapshot) (explicit : List Member) : Procedure Selection := do
  Procedure.ofExcept t.checkTarget
  if explicit.isEmpty then
    let viable ← collectViable t
    if viable.isEmpty then ofNothing t else return ofMembers viable
  else
    ofChoice o t explicit

/-- The selection that a picker makes among the viable members. It is not asked where there are
none; to dismiss the question and to choose nothing both mean that nothing is to be generated. -/
def ofPicker (o : Options) (t : TypeSnapshot) : Procedure Selection := do
  Procedure.ofExcept t.checkTarget
  let viable ← collectViable t
  if viable.isEmpty then
    ofNothing t
  else
    .pick t viable fun
      | none | some [] => .refuse (.nothingToGenerate t.name .selectionDismissed)
      | some chosen => ofChoice o t chosen

end Selection

end ConstructorPlanning
