import ConstructorPlanning.Planning.Procedure
import ConstructorPlanning.Planning.Selection
/-!
How a selection compares with the constructors a type already has. Assigned members and selection
are compared as sets of names; the order of the selection only lays out what a delegation leaves
over.
-/
namespace ConstructorPlanning

/-- What the existing constructors offer to a selection. -/
inductive Match where
  /-- The constructor assigns exactly the selected members. -/
  | exact (constructor : Constructor)
  /-- The constructor assigns some of the selected members and nothing else; the rest is the
  residual. -/
  | delegatable (delegate : Constructor) (residual : List Member)
  | nothing
  deriving DecidableEq, Repr

namespace Match

def isExact : Match → Bool
  | exact _ => true
  | _ => false

end Match

namespace Selection

/-- Whether a constructor assigns selected members only. -/
def covers (s : Selection) (c : Constructor) : Bool :=
  c.assignedSet.all s.contains

/-- The selected members that a constructor does not assign. -/
def residual (s : Selection) (c : Constructor) : List Member :=
  s.members.filter fun m => !c.assignedMembers.contains m.name

/-- The better delegation target: the one that assigns more members, and on equal terms the earlier.
-/
def betterDelegate (best : Option Constructor) (c : Constructor) : Option Constructor :=
  if c.assignedSet.isEmpty then
    best
  else
    match best with
    | none => some c
    | some b => if b.assignedSet.length < c.assignedSet.length then some c else some b

def matchBest (s : Selection) : Option Constructor → Procedure Match
  | none => .done .nothing
  | some c =>
    let residual := s.residual c
    .note (.delegationTarget c.declarationOrder c.assignedSet.length residual.length)
      (.done (.delegatable c residual))

/-- Looks through constructors, polling before each, until one assigns exactly the selection; `best`
is the best delegation target among those before. -/
def matchFrom (s : Selection) (best : Option Constructor) : List Constructor → Procedure Match
  | [] => s.matchBest best
  | c :: rest =>
    .poll <|
      if !s.covers c then
        s.matchFrom best rest
      else if c.assignedSet.length = s.size then
        .note (.exactMatch c.declarationOrder) (.done (.exact c))
      else
        s.matchFrom (betterDelegate best c) rest

/-- Compares a selection with constructors, in declaration order. -/
def matchConstructors (s : Selection) (constructors : List Constructor) : Procedure Match :=
  s.matchFrom none (Constructor.inOrder constructors)

end Selection

end ConstructorPlanning
